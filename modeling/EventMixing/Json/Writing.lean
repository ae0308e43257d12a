import EventMixing.Json.Token

/-!
# Writing JSON

A document is the list of its tokens, put together by `list` and `object`. It is
written with nothing between the tokens, or with a line for each element and two
blanks for each level of nesting.
-/

namespace EventMixing.Json

/-- A JSON value, as the tokens that it is written with. -/
abbrev Document := List Token

namespace Document

/-- Documents with commas between them. -/
def separated : List Document → Document
  | [] => []
  | [d] => d
  | d :: rest => d ++ .comma :: separated rest

def list (items : List Document) : Document :=
  .openList :: separated items ++ [.closeList]

def object (members : List (String × Document)) : Document :=
  .openObject :: separated (members.map fun (key, d) => .text key :: .colon :: d)
    ++ [.closeObject]

def natural (n : Nat) : Document := [.natural n]

def real (d : Double) : Document := [.real d]

def text (s : String) : Document := [.text s]

/-- The document with nothing between its tokens. -/
def compact (d : Document) : String := String.join (d.map Token.write)

/-- A line break and the indentation of a level. -/
def lineBreak (level : Nat) : String := "\n".pushn ' ' (2 * level)

/-- The pieces of the indented text, from a token at a level on. Brackets with nothing
between them stay on one line. -/
def indented (level : Nat) : Document → List String
  | [] => []
  | .openList :: .closeList :: rest => "[]" :: indented level rest
  | .openObject :: .closeObject :: rest => "\x7b\x7d" :: indented level rest
  | token :: rest =>
    match token with
    | .openList | .openObject =>
      token.write :: lineBreak (level + 1) :: indented (level + 1) rest
    | .closeList | .closeObject =>
      lineBreak (level - 1) :: token.write :: indented (level - 1) rest
    | .comma => "," :: lineBreak level :: indented level rest
    | .colon => ": " :: indented level rest
    | token => token.write :: indented level rest

/-- The document with a line for each element. -/
def pretty (d : Document) : String := String.join (indented 0 d)

end Document

end EventMixing.Json
