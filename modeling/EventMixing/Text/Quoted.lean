import EventMixing.Text.Digits
import EventMixing.Text.Escaped

/-!
# Quoted text

A message quotes a text between double quotes so that every character shows: the
quote and the backslash behind a backslash, the common controls by their letters,
and what has nothing to see of its own by its number.
-/

namespace EventMixing

namespace Quoted

/-- One character as a quoted text shows it. -/
def showChar (c : Char) : String :=
  if c = '"' then "\\\""
  else if c = '\\' then "\\\\"
  else if c = '\n' then "\\n"
  else if c = '\r' then "\\r"
  else if c = '\t' then "\\t"
  else if c = '\x00' then "\\0"
  else if ' ' ≤ c ∧ c ≤ '~' then c.toString
  else if isEscaped c then
    "\\u\x7b" ++ hexadecimal 0 c.toNat ++ "\x7d"
  else c.toString

end Quoted

def quoted (text : String) : String :=
  "\"" ++ String.join (text.toList.map Quoted.showChar) ++ "\""

def quotedList (texts : List String) : String :=
  "[" ++ ", ".intercalate (texts.map quoted) ++ "]"

end EventMixing
