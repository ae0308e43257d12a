import EventMixing.Double.Shortest
import EventMixing.Text.Digits

/-!
# Writing a number

`NumberLayout` holds what the output formats decide differently about one and
the same shortest decimal: where positional notation ends, what a whole number
carries after its digits, how an exponent is introduced, and which way an exact
tie goes. `render` puts the digits in place.
-/

namespace EventMixing

/-- How a format writes a double. -/
structure NumberLayout where
  /-- An exponent is written when the first digit's place, counted from the
  decimal point, lies at or below the first bound or above the second. -/
  positional : Option (Int × Int)
  /-- What follows the digits of a whole number. -/
  wholeEnd : String
  /-- What introduces an exponent that is not negative. -/
  exponentMark : String
  tie : Tie
  nan : String
  infinity : String

namespace NumberLayout

/-- Values in a JSON text. -/
def json : NumberLayout where
  positional := some (-5, 16)
  wholeEnd := ".0"
  exponentMark := "e+"
  tie := .toEven
  nan := "NaN"
  infinity := "inf"

/-- Cells of a CSV file. -/
def csv : NumberLayout := { json with exponentMark := "e" }

/-- Cells of a CSV file that hold numbers of single precision. -/
def csvSingle : NumberLayout := { csv with positional := some (-6, 13) }

/-- Numbers in running text: never an exponent, and a whole number is its digits. -/
def prose : NumberLayout where
  positional := none
  wholeEnd := ""
  exponentMark := ""
  tie := .away
  nan := "NaN"
  infinity := "inf"

/-- Whether a number whose first digit stands `place` places before the decimal
point is written without an exponent. -/
def isPositional (layout : NumberLayout) (place : Int) : Bool :=
  match layout.positional with
  | none => true
  | some (low, high) => decide (low < place) && decide (place ≤ high)

/-- Digits with the decimal point after the first `place` of them, filled up with
zeros on the side where they do not reach it. -/
def positionalText (layout : NumberLayout) (digits : String) (place : Int) : String :=
  if place ≤ 0 then "0." ++ "".pushn '0' (-place).toNat ++ digits
  else if digits.length ≤ place.toNat then
    digits.pushn '0' (place.toNat - digits.length) ++ layout.wholeEnd
  else
    String.ofList (digits.toList.take place.toNat) ++ "."
      ++ String.ofList (digits.toList.drop place.toNat)

/-- One digit, the others behind a point, and the exponent. -/
def scientificText (layout : NumberLayout) (digits : String) (place : Int) : String :=
  let mantissa := match digits.toList with
    | [] => ""
    | [c] => c.toString
    | c :: rest => c.toString ++ "." ++ String.ofList rest
  let exponent := place - 1
  if exponent < 0 then mantissa ++ "e-" ++ toString exponent.natAbs
  else mantissa ++ layout.exponentMark ++ toString exponent.natAbs

def decimalText (layout : NumberLayout) (d : Decimal) : String :=
  let digits := toString d.digits
  let place := d.exponent + digits.length
  if layout.isPositional place then layout.positionalText digits place
  else layout.scientificText digits place

/-- A number from its sign and the decimal of its magnitude, zero having none. -/
def signedText (layout : NumberLayout) (negative : Bool) (d : Option Decimal) : String :=
  (if negative then "-" else "") ++ match d with
    | none => "0" ++ layout.wholeEnd
    | some d => layout.decimalText d

end NumberLayout

/-- A double that a format can hold, in the fewest digits that read back in it. -/
def Double.renderIn (format : BinaryFormat) (layout : NumberLayout) (d : Double) : String :=
  if d.isNaN then layout.nan
  else if d.isFinite then
    layout.signedText d.isNegative
      (if d.magnitude = 0 then none else some ((d.inFormat format).shortest layout.tie))
  else (if d.isNegative then "-" else "") ++ layout.infinity

/-- A double in the fewest digits that read back. -/
def Double.render (layout : NumberLayout) (d : Double) : String :=
  d.renderIn .double layout

/-- A finite double with a fixed number of places: its exact value rounded, a half
going to the even digit. -/
def Double.fixed (places : Nat) (d : Double) : String :=
  let units := roundDiv (d.significand <<< d.exponent.toNat * Nat.pow 10 places)
    (1 <<< (-d.exponent).toNat) .toEven
  let padded := zeroFilled (places + 1) units
  let whole := padded.length - places
  (if d.isNegative then "-" else "") ++ String.ofList (padded.toList.take whole)
    ++ (if places = 0 then "" else "." ++ String.ofList (padded.toList.drop whole))

end EventMixing
