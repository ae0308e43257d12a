import EventMixing.Double.Nearest
import EventMixing.Text.Digits

/-!
# Reading a plain decimal

A decimal has an optional sign, digits with at most one point among them and at
least one digit in all, and an optional exponent; the words `inf`, `infinity`
and `nan` are read in any case. The value is rounded once, to a double or to single
precision.
-/

namespace EventMixing

namespace Double

/-- The exponent that follows the digits, up to the end of the text. -/
def readExponent? : List Char → Option Int
  | [] => some 0
  | c :: rest =>
    if c = 'e' ∨ c = 'E' then
      let (negative, digits) := splitSign rest
      if isDigits digits then
        let value : Int := digitsValue digits
        some (if negative then -value else value)
      else none
    else none

/-- A way to round `± num / den`. -/
abbrev Nearest := Bool → Nat → Nat → Double

/-- The number nearest to `± digits * 10 ^ exponent`. Digits as many as these bounds
allow leave nothing but zero or infinity, so the powers stay small. -/
def nearestDecimal (round : Nearest) (negative : Bool) (digits : Nat) (exponent : Int) :
    Double :=
  if digits = 0 then ofMagnitude negative 0
  else
    let place := exponent + (toString digits).length
    if 400 < place then ofMagnitude negative infinityMagnitude
    else if place < -400 then ofMagnitude negative 0
    else round negative (digits * Nat.pow 10 exponent.toNat) (Nat.pow 10 (-exponent).toNat)

/-- The double nearest to `± digits * 10 ^ exponent`. -/
def ofDecimal (negative : Bool) (digits : Nat) (exponent : Int) : Double :=
  nearestDecimal nearest negative digits exponent

/-- A number without its sign. -/
def readUnsigned? (round : Nearest) (negative : Bool) (text : List Char) : Option Double :=
  match String.ofList (text.map Char.toLower) with
  | "inf" | "infinity" => some (ofMagnitude negative infinityMagnitude)
  | "nan" => some nan
  | _ =>
    let (whole, rest) := text.span Char.isDigit
    let (fraction, rest) := match rest with
      | '.' :: rest => rest.span Char.isDigit
      | rest => ([], rest)
    if whole.isEmpty && fraction.isEmpty then none
    else (readExponent? rest).map fun exponent =>
      nearestDecimal round negative (digitsValue (whole ++ fraction))
        (exponent - fraction.length)

/-- The double that a whole text spells. -/
def ofText? (text : List Char) : Option Double :=
  let (negative, rest) := splitSign text
  readUnsigned? nearest negative rest

/-- The number of single precision that a whole text spells. -/
def singleOfText? (text : List Char) : Option Double :=
  let (negative, rest) := splitSign text
  readUnsigned? nearestSingle negative rest

end Double

end EventMixing
