/-!
# Bytes written as percent signs and digits

A percent sign with two hexadecimal digits behind it stands for a byte; any other byte
stands for itself.
-/

namespace EventMixing

namespace Percent

def hexDigit? (b : UInt8) : Option UInt8 :=
  if '0'.toUInt8 ≤ b ∧ b ≤ '9'.toUInt8 then some (b - '0'.toUInt8)
  else if 'a'.toUInt8 ≤ b ∧ b ≤ 'f'.toUInt8 then some (b - 'a'.toUInt8 + 10)
  else if 'A'.toUInt8 ≤ b ∧ b ≤ 'F'.toUInt8 then some (b - 'A'.toUInt8 + 10)
  else none

/-- The byte that three bytes stand for, if they do. -/
def escaped? (b high low : UInt8) : Option UInt8 :=
  if b = '%'.toUInt8 then do return 16 * (← hexDigit? high) + (← hexDigit? low) else none

def decode : List UInt8 → List UInt8
  | b :: high :: low :: rest =>
    match escaped? b high low with
    | some byte => byte :: decode rest
    | none => b :: decode (high :: low :: rest)
  | bytes => bytes

end Percent

/-- The text that a text with percent signs stands for, if its bytes make one. -/
def percentDecoded? (text : String) : Option String :=
  String.fromUTF8? ⟨(Percent.decode text.toUTF8.toList).toArray⟩

end EventMixing
