import EventMixing.Json.Number

/-!
# From a text to its tokens

`tokens` cuts a text into tokens from the left. A token is recognised by its first
character; `lexeme` tells the token and how many characters beyond the first it takes,
so each step is shorter than the one before.
-/

namespace EventMixing.Json

def isSpace (c : Char) : Bool := c = ' ' || c = '\n' || c = '\t' || c = '\r'

namespace Lexing

/-! ## Quoted texts -/

def hexDigit? (c : Char) : Option Nat :=
  if c.isDigit then some (c.toNat - '0'.toNat)
  else if 'a' ≤ c ∧ c ≤ 'f' then some (c.toNat - 'a'.toNat + 10)
  else if 'A' ≤ c ∧ c ≤ 'F' then some (c.toNat - 'A'.toNat + 10)
  else none

/-- The value of four hexadecimal digits. Four bytes must be left in the text, be they
digits or not. -/
def readHex (text : List Char) : Except Fault Nat :=
  let bytes := (text.take 4).foldl (fun n c => n + c.utf8Size) 0
  if bytes < 4 then .error (.unfinished .text)
  else
    match text with
    | a :: b :: c :: d :: _ =>
      match hexDigit? a, hexDigit? b, hexDigit? c, hexDigit? d with
      | some a, some b, some c, some d => .ok (((a * 16 + b) * 16 + c) * 16 + d)
      | _, _, _, _ => .error (.malformed .invalidEscape)
    | _ => .error (.malformed .invalidEscape)

/-- The character of a hexadecimal escape, after its letter, and the number of
characters that it takes: a leading surrogate needs a second escape behind it. -/
def readHexEscape (text : List Char) : Except Fault (Char × Nat) :=
  match readHex text with
  | .error f => .error f
  | .ok high =>
    if 0xDC00 ≤ high ∧ high ≤ 0xDFFF then .error (.malformed .loneSurrogate)
    else if high < 0xD800 ∨ 0xDBFF < high then .ok (Char.ofNat high, 4)
    else
      match text.drop 4 with
      | [] => .error (.unfinished .text)
      | '\\' :: [] => .error (.unfinished .text)
      | '\\' :: 'u' :: rest =>
        match readHex rest with
        | .error f => .error f
        | .ok low =>
          if 0xDC00 ≤ low ∧ low ≤ 0xDFFF then
            .ok (Char.ofNat (0x10000 + (high - 0xD800) * 0x400 + (low - 0xDC00)), 10)
          else .error (.malformed .loneSurrogate)
      | _ => .error (.malformed .unexpectedEscapeEnd)

/-- The character of an escape, after its backslash, and the number of characters that
it takes. -/
def readEscape : List Char → Except Fault (Char × Nat)
  | [] => .error (.unfinished .text)
  | c :: rest =>
    match c with
    | '"' => .ok ('"', 1)
    | '\\' => .ok ('\\', 1)
    | '/' => .ok ('/', 1)
    | 'b' => .ok ('\x08', 1)
    | 'f' => .ok ('\x0c', 1)
    | 'n' => .ok ('\n', 1)
    | 'r' => .ok ('\r', 1)
    | 't' => .ok ('\t', 1)
    | 'u' => (readHexEscape rest).map fun (c, length) => (c, length + 1)
    | _ => .error (.malformed .invalidEscape)

/-- A quoted text after its opening quote: the characters in it, and the number of
characters up to and with the closing quote. -/
def readQuoted : List Char → Except Fault (List Char × Nat)
  | [] => .error (.unfinished .text)
  | c :: rest =>
    if c = '"' then .ok ([], 1)
    else if c = '\\' then
      match readEscape rest with
      | .error f => .error f
      | .ok (e, length) =>
        (readQuoted (rest.drop length)).map fun (s, more) => (e :: s, 1 + length + more)
    else if c < ' ' then .error (.malformed .controlCharacter)
    else (readQuoted rest).map fun (s, more) => (c :: s, 1 + more)
termination_by text => text.length
decreasing_by all_goals simp; try omega

/-! ## Words -/

def readWord (token : Token) (word text : List Char) : Except Fault (Token × Nat) :=
  let rec go : List Char → List Char → Except Fault Unit
    | [], _ => .ok ()
    | _ :: _, [] => .error (.unfinished .value)
    | w :: ws, c :: cs => if w = c then go ws cs else .error (.malformed .expectedWord)
  (go word text).map fun _ => (token, word.length)

/-! ## Tokens -/

/-- The token that starts with `c`, and the number of characters of `rest` in it. -/
def lexeme (c : Char) (rest : List Char) : Except Fault (Token × Nat) :=
  match c with
  | '[' => .ok (.openList, 0)
  | ']' => .ok (.closeList, 0)
  | '\x7b' => .ok (.openObject, 0)
  | '\x7d' => .ok (.closeObject, 0)
  | ',' => .ok (.comma, 0)
  | ':' => .ok (.colon, 0)
  | 'n' => readWord .null ['u', 'l', 'l'] rest
  | 't' => readWord (.boolean true) ['r', 'u', 'e'] rest
  | 'f' => readWord (.boolean false) ['a', 'l', 's', 'e'] rest
  | '"' => (readQuoted rest).map fun (s, length) => (.text (String.ofList s), length)
  | '-' => Number.readUnsigned true rest
  | _ =>
    if c.isDigit then (Number.readUnsigned false (c :: rest)).map fun (t, n) => (t, n - 1)
    else .error (.malformed .expectedValue)

end Lexing

def tokens : List Char → List Token
  | [] => []
  | c :: rest =>
    if isSpace c then tokens rest
    else
      match Lexing.lexeme c rest with
      | .error fault => [.broken (c = '"') fault]
      | .ok (token, length) => token :: tokens (rest.drop length)
termination_by text => text.length
decreasing_by all_goals simp; try omega

end EventMixing.Json
