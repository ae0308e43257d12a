import EventMixing.Double.Layout
import EventMixing.Json.Fault

/-!
# Tokens of a JSON text

A JSON text is its tokens with any white space between them. A token carries the
value it stands for, so a number is a whole number or a double here and a text has no
escapes left. Where a text cannot go on as JSON its last token is `broken`, with the
fault that a reader meets on reaching it.
-/

namespace EventMixing.Json

inductive Token where
  | openList
  | closeList
  | openObject
  | closeObject
  | comma
  | colon
  | null
  | boolean (b : Bool)
  /-- A whole number from zero on. -/
  | natural (n : Nat)
  /-- A whole number below zero. -/
  | negative (i : Int)
  | real (d : Double)
  | text (s : String)
  /-- The text cannot go on; `quoted` if it stops inside a quoted text. -/
  | broken (quoted : Bool) (fault : Fault)
deriving DecidableEq

namespace Token

/-- One character of a quoted text. -/
def escapeChar (c : Char) : String :=
  if c = '"' then "\\\""
  else if c = '\\' then "\\\\"
  else if c = '\n' then "\\n"
  else if c = '\r' then "\\r"
  else if c = '\t' then "\\t"
  else if c = '\x08' then "\\b"
  else if c = '\x0c' then "\\f"
  else if c < ' ' then
    "\\u" ++ hexadecimal 4 c.toNat
  else c.toString

/-- A token as it is written. A double that is not finite has no JSON text of its own
and is written as `null`. -/
def write : Token → String
  | openList => "["
  | closeList => "]"
  | openObject => "\x7b"
  | closeObject => "\x7d"
  | comma => ","
  | colon => ":"
  | null => "null"
  | boolean b => if b then "true" else "false"
  | natural n => toString n
  | negative i => toString i
  | real d => if d.isFinite then d.render .json else "null"
  | text s => "\"" ++ String.join (s.toList.map escapeChar) ++ "\""
  | broken _ _ => ""

end Token

end EventMixing.Json
