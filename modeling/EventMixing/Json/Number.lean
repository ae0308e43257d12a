import EventMixing.Double.Nearest
import EventMixing.Json.Token
import EventMixing.Text.Digits

/-!
# Numbers of a JSON text

A number is a whole part without a leading zero, perhaps a fraction, perhaps an
exponent. Its digits are gathered in a 64-bit significand as far as they fit, and a
double is that significand scaled by a power of ten: each step is one rounded
operation on doubles, so long numbers may miss the nearest double by a bit. A number
with neither fraction nor exponent stays whole if it fits in 64 bits.
-/

namespace EventMixing.Json

namespace Number

/-- The significand with as many more digits as fit in 64 bits, and the digits left
over. -/
def gather (significand : Nat) : List Char → Nat × List Char
  | [] => (significand, [])
  | c :: rest =>
    let next := 10 * significand + digitValue c
    if next < UInt64.size then gather next rest else (significand, c :: rest)

def powerOfTen (n : Nat) : Double := Double.nearest false (Nat.pow 10 n) 1

/-- A double divided by `10 ^ n`, in steps that a double can hold. -/
def divideByPower (d : Double) (n : Nat) : Double :=
  if n ≤ 308 then d.div (powerOfTen n)
  else if d.magnitude = 0 then d
  else divideByPower (d.div (powerOfTen 308)) (n - 308)
termination_by n

/-- The double for `significand * 10 ^ exponent`; none beyond the largest double. -/
def scale? (significand : Nat) (exponent : Int) : Option Double :=
  let d := Double.ofNat significand
  if significand = 0 then some d
  else if exponent < 0 then some (divideByPower d exponent.natAbs)
  else if 308 < exponent then none
  else
    let scaled := d.mul (powerOfTen exponent.natAbs)
    if scaled.isFinite then some scaled else none

def realToken (isNegative : Bool) (significand : Nat) (exponent : Int) : Except Fault Token :=
  match scale? significand exponent with
  | some d => .ok (.real (if isNegative then d.neg else d))
  | none => .error (.malformed .numberOutOfRange)

/-- A whole number by its sign and digits' value. Below zero, one that 63 bits cannot
hold is a double, and so is a negative zero. -/
def wholeToken (isNegative : Bool) (n : Nat) : Token :=
  if !isNegative then .natural n
  else if n = 0 ∨ 1 <<< 63 < n then .real (Double.ofNat n).neg
  else .negative (-(n : Int))

/-- The exponent after its mark, and the number of characters that it takes. -/
def readExponent (text : List Char) : Except Fault (Int × Nat) :=
  let (isNegative, rest) := splitSign text
  let digits := rest.takeWhile Char.isDigit
  if digits.isEmpty then
    .error (if rest.isEmpty then .unfinished .value else .malformed .invalidNumber)
  else
    let value : Int := digitsValue digits
    .ok (if isNegative then -value else value, text.length - rest.length + digits.length)

/-- What follows the digits of a double: an exponent, or something else altogether. -/
def readScaled (isNegative : Bool) (significand : Nat) (exponent : Int) (taken : Nat) :
    List Char → Except Fault (Token × Nat)
  | c :: rest =>
    if c = 'e' ∨ c = 'E' then
      match readExponent rest with
      | .error f => .error f
      | .ok (more, length) =>
        (realToken isNegative significand (exponent + more)).map (·, taken + 1 + length)
    else (realToken isNegative significand exponent).map (·, taken)
  | [] => (realToken isNegative significand exponent).map (·, taken)

/-- What follows the whole digits, of which `dropped` found no place in the
significand. -/
def readAfterWhole (isNegative : Bool) (significand dropped taken : Nat) (text : List Char) :
    Except Fault (Token × Nat) :=
  match text with
  | '.' :: rest =>
    let digits := rest.takeWhile Char.isDigit
    let after := rest.drop digits.length
    if digits.isEmpty then
      .error (if after.isEmpty then .unfinished .value else .malformed .invalidNumber)
    else
      let (significand, left) := gather significand digits
      let places := digits.length - left.length
      readScaled isNegative significand ((dropped : Int) - places) (taken + 1 + digits.length) after
  | c :: _ =>
    if c = 'e' ∨ c = 'E' ∨ 0 < dropped then
      readScaled isNegative significand dropped taken text
    else .ok (wholeToken isNegative significand, taken)
  | [] =>
    if 0 < dropped then readScaled isNegative significand dropped taken text
    else .ok (wholeToken isNegative significand, taken)

/-- A number after its sign, and the number of characters that it takes. -/
def readUnsigned (isNegative : Bool) (text : List Char) : Except Fault (Token × Nat) :=
  let digits := text.takeWhile Char.isDigit
  match digits with
  | [] => .error (if text.isEmpty then .unfinished .value else .malformed .invalidNumber)
  | '0' :: _ :: _ => .error (.malformed .invalidNumber)
  | digits =>
    let (significand, left) := gather 0 digits
    readAfterWhole isNegative significand left.length digits.length (text.drop digits.length)

end Number

end EventMixing.Json
