import EventMixing.Text.Digits

/-!
# Reading a whole number

A whole number is a list of decimal digits, a plus sign allowed before them, and
fits in 64 bits. The first thing that is wrong, from the left, names the fault.
-/

namespace EventMixing

/-- Why a text is no whole number. -/
inductive NaturalFault where
  | empty
  | invalidDigit
  | tooLarge
deriving DecidableEq, Repr

def NaturalFault.message : NaturalFault → String
  | .empty => "cannot parse integer from empty string"
  | .invalidDigit => "invalid digit found in string"
  | .tooLarge => "number too large to fit in target type"

namespace Natural

/-- Digits read after a number `n`. -/
def readDigits (n : Nat) : List Char → Except NaturalFault Nat
  | [] => .ok n
  | c :: rest =>
    if c.isDigit then
      let next := 10 * n + digitValue c
      if next < UInt64.size then readDigits next rest else .error .tooLarge
    else .error .invalidDigit

end Natural

/-- The whole number below `2 ^ 64` that a text spells. -/
def readNatural : List Char → Except NaturalFault Nat
  | [] => .error .empty
  | ['+'] => .error .invalidDigit
  | '+' :: rest => Natural.readDigits 0 rest
  | text => Natural.readDigits 0 text

end EventMixing
