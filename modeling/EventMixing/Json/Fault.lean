import EventMixing.Double.Layout
import EventMixing.Text.Quoted

/-!
# What can be wrong with a JSON text

A reader stops at the first fault from the left, of one of three kinds: the text is
not JSON at all, it ends too early, or it is JSON but not the data that is expected.
-/

namespace EventMixing.Json

/-- How a text fails to be JSON. -/
inductive Malformed where
  | expectedColon
  | expectedListCommaOrEnd
  | expectedObjectCommaOrEnd
  | expectedWord
  | expectedValue
  | invalidEscape
  | invalidNumber
  | numberOutOfRange
  | controlCharacter
  | keyNotText
  | loneSurrogate
  | trailingComma
  | trailingCharacters
  | unexpectedEscapeEnd
deriving DecidableEq, Repr

def Malformed.message : Malformed → String
  | .expectedColon => "expected `:`"
  | .expectedListCommaOrEnd => "expected `,` or `]`"
  | .expectedObjectCommaOrEnd => "expected `,` or `\x7d`"
  | .expectedWord => "expected ident"
  | .expectedValue => "expected value"
  | .invalidEscape => "invalid escape"
  | .invalidNumber => "invalid number"
  | .numberOutOfRange => "number out of range"
  | .controlCharacter =>
    "control character (\\u0000-\\u001F) found while parsing a string"
  | .keyNotText => "key must be a string"
  | .loneSurrogate => "lone leading surrogate in hex escape"
  | .trailingComma => "trailing comma"
  | .trailingCharacters => "trailing characters"
  | .unexpectedEscapeEnd => "unexpected end of hex escape"

/-- What a text ends inside of. -/
inductive Unfinished where
  | list
  | object
  | text
  | value
deriving DecidableEq, Repr

def Unfinished.message : Unfinished → String
  | .list => "EOF while parsing a list"
  | .object => "EOF while parsing an object"
  | .text => "EOF while parsing a string"
  | .value => "EOF while parsing a value"

/-- What stands where something else is expected. -/
inductive Found where
  | null
  | boolean (b : Bool)
  | integer (i : Int)
  | real (d : Double)
  | text (s : String)
  | list
  | object
deriving DecidableEq, Repr

def Found.message : Found → String
  | .null => "null"
  | .boolean b => "boolean `" ++ (if b then "true" else "false") ++ "`"
  | .integer i => "integer `" ++ toString i ++ "`"
  | .real d => "floating point `" ++ d.render .json ++ "`"
  | .text s => "string " ++ quoted s
  | .list => "sequence"
  | .object => "map"

/-- How JSON fails to be the data that is expected. -/
inductive Mismatch where
  /-- A value of the wrong type. -/
  | invalidType (found : Found) (expected : String)
  /-- A value of the right type but out of range. -/
  | invalidValue (found : Found) (expected : String)
  /-- A list that ends after `length` elements of a record. -/
  | invalidLength (length : Nat) (expected : String)
  | unknownField (name : String) (known : List String)
  | duplicateField (name : String)
  | missingField (name : String)
  /-- A value that what it is read into refuses, for its own reason. -/
  | refused (reason : String)
deriving DecidableEq, Repr

/-- The names of which one is expected. -/
def Mismatch.listNames (names : List String) : String :=
  match names.map fun name => "`" ++ name ++ "`" with
  | [name] => name
  | [name, other] => name ++ " or " ++ other
  | names => "one of " ++ ", ".intercalate names

def Mismatch.message : Mismatch → String
  | .invalidType found expected =>
    "invalid type: " ++ found.message ++ ", expected " ++ expected
  | .invalidValue found expected =>
    "invalid value: " ++ found.message ++ ", expected " ++ expected
  | .invalidLength length expected =>
    "invalid length " ++ toString length ++ ", expected " ++ expected
  | .unknownField name known =>
    "unknown field `" ++ name ++ "`, expected " ++ listNames known
  | .duplicateField name => "duplicate field `" ++ name ++ "`"
  | .missingField name => "missing field `" ++ name ++ "`"
  | .refused reason => reason

/-- What is wrong with a text. -/
inductive Fault where
  | malformed (how : Malformed)
  | unfinished (inside : Unfinished)
  | mismatch (how : Mismatch)
deriving DecidableEq, Repr

def Fault.message : Fault → String
  | .malformed how => how.message
  | .unfinished inside => inside.message
  | .mismatch how => how.message

end EventMixing.Json
