/-!
# Fields of a CSV text

Fields stand between commas and line ends. A field that starts with a quote runs on
over both until its quotes are even; one that does not may hold quotes of its own.
Lines and pieces are cut where the quotes of the whole text are even, whether they
start a field or not.
-/

namespace EventMixing.Csv

/-- A field as it stands in the text, with its quotes if it has any. -/
structure Field where
  chars : List Char
  quoted : Bool
deriving DecidableEq, Repr

namespace Field

def absent : Field := ⟨[], false⟩

/-- The number of characters before the comma or line end that ends a field; `inside`
tells whether an odd number of its quotes has passed. -/
def lengthFrom (quoted inside : Bool) : List Char → Nat
  | [] => 0
  | c :: rest =>
    let inside := inside != (quoted && c = '"')
    if !inside && (c = ',' || c = '\n') then 0 else lengthFrom quoted inside rest + 1

def startsQuoted : List Char → Bool
  | '"' :: _ => true
  | _ => false

/-- The field that a text starts with, and the text from its end on. -/
def take (text : List Char) : Field × List Char :=
  let quoted := startsQuoted text
  let length := lengthFrom quoted false text
  (⟨text.take length, quoted⟩, text.drop length)

theorem length_lt_of_take {text : List Char} {field c rest}
    (h : take text = (field, c :: rest)) : rest.length < text.length := by
  have := congrArg (fun p => p.2.length) h
  simp [take] at this
  omega

/-- Characters without the last byte, which may leave a part of the last character: no
text any more, it shows as a replacement character. -/
def dropLastByte : List Char → List Char
  | [] => []
  | [c] => if c.utf8Size = 1 then [] else ['\uFFFD']
  | c :: rest => c :: dropLastByte rest

/-- A quoted field without its first and last byte, whatever the last one is, and any
other as it is. -/
def inner (f : Field) : List Char :=
  if f.quoted ∧ 1 < f.chars.length then dropLastByte (f.chars.drop 1) else f.chars

/-- A field without the carriage return that a line may end with. -/
def trimReturn (f : Field) : Field :=
  if f.chars.getLast? = some '\r' then { f with chars := f.chars.dropLast } else f

/-- Quotes inside a field: the first of a pair is dropped. `paired` tells whether the
character before was such a first one. -/
def collapseQuotes (paired : Bool) : List Char → List Char
  | [] => []
  | c :: rest =>
    if c = '"' then
      if paired then c :: collapseQuotes false rest else collapseQuotes true rest
    else c :: collapseQuotes false rest

end Field

def fieldsOfLine (line : List Char) : List Field :=
  match h : Field.take line with
  | (field, ',' :: rest) =>
    have := Field.length_lt_of_take h
    field :: fieldsOfLine rest
  | (field, _) => [field]
termination_by line.length

/-! ## Lines -/

/-- The lines of a text. What follows the last line end is a line too. -/
def lines (text : List Char) : List (List Char) := go false [] text
where
  go (inside : Bool) (line : List Char) : List Char → List (List Char)
    | [] => if line.isEmpty then [] else [line.reverse]
    | c :: rest =>
      let inside := inside != decide (c = '"')
      if !inside && c = '\n' then line.reverse :: go inside [] rest
      else go inside (c :: line) rest

/-- A line without the carriage return at its end, should it be more than that. -/
def trimReturn (line : List Char) : List Char :=
  if 1 < line.length ∧ line.getLast? = some '\r' then line.dropLast else line

/-- The text after its first line. -/
def afterFirstLine (inside : Bool) : List Char → List Char
  | [] => []
  | c :: rest =>
    let inside := inside != decide (c = '"')
    if !inside && c = '\n' then rest else afterFirstLine inside rest

/-! ## Pieces

A long text is read in pieces of whole lines, each for itself, so a field never runs on
into the next piece. A piece ends with the last line end in a window, which is widened
until it holds one. -/

/-- The bytes of the first window. -/
def firstWindow : Nat := 4096

/-- The bytes of a text up to its first line end, where so many have passed. -/
def bytesOfLine? (passed : Nat) (inside : Bool) : List Char → Option Nat
  | [] => none
  | c :: rest =>
    let passed := passed + c.utf8Size
    let inside := inside != decide (c = '"')
    if !inside && c = '\n' then some passed else bytesOfLine? passed inside rest

/-- A window doubled until it holds so many bytes. -/
def widened (window needed : Nat) : Nat :=
  if 0 < window ∧ window < needed then widened (2 * window) needed else window
termination_by needed - window

/-- The number of characters up to the last line end in a window of so many bytes, where
so many characters have passed, `length` of them up to a line end. -/
def lengthInWindow (window : Nat) (inside : Bool) (passed length : Nat) : List Char → Nat
  | [] => length
  | c :: rest =>
    if window < c.utf8Size then length
    else
      let passed := passed + 1
      let inside := inside != decide (c = '"')
      let length := if !inside && c = '\n' then passed else length
      lengthInWindow (window - c.utf8Size) inside passed length rest

/-- The pieces of a text, the last one with what follows the last line end. -/
def pieces (window : Nat) (text : List Char) : List (List Char) :=
  match bytesOfLine? 0 false text with
  | none => if text.isEmpty then [] else [text]
  | some needed =>
    let window := widened window needed
    let length := lengthInWindow window false 0 0 text
    if _h : 0 < length ∧ 0 < text.length then
      text.take length :: pieces window (text.drop length)
    else [text]
termination_by text.length
decreasing_by
  rw [List.length_drop]
  exact Nat.sub_lt _h.2 _h.1

end EventMixing.Csv
