/-!
# Decimal digits

The value of digits, and digits filled up to a width.
-/

namespace EventMixing

def digitValue (c : Char) : Nat := c.toNat - '0'.toNat

def digitsValue (digits : List Char) : Nat :=
  digits.foldl (fun n c => 10 * n + digitValue c) 0

/-- Digits, one at least. -/
def isDigits (chars : List Char) : Bool := !chars.isEmpty && chars.all Char.isDigit

/-- A leading sign, `true` for a minus, and the rest. -/
def splitSign : List Char → Bool × List Char
  | '-' :: rest => (true, rest)
  | '+' :: rest => (false, rest)
  | chars => (false, chars)

/-- A text filled up on the left to a number of characters. -/
def padLeft (width : Nat) (fill : Char) (text : String) : String :=
  "".pushn fill (width - text.length) ++ text

/-- A text filled up with blanks on the right to a number of characters. -/
def padRight (width : Nat) (text : String) : String := text.pushn ' ' (width - text.length)

def zeroFilled (width n : Nat) : String := padLeft width '0' (toString n)

def hexadecimal (width n : Nat) : String :=
  padLeft width '0' (String.ofList (Nat.toDigits 16 n))

end EventMixing
