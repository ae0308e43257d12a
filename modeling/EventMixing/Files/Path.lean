import EventMixing.Files.Fault

/-!
# Paths

A path is a text of components between slashes. Empty components and dots stand for
nothing, except for a dot at the very start, which is kept when a path is taken apart.
The last component is the file's name, unless it is two dots, and what comes before it
is the parent. A name's extension follows its last dot; a dot that starts the name makes
none. Names that are no texts are left out.
-/

namespace EventMixing

structure Path where
  text : String
deriving DecidableEq, Repr

namespace Path

/-! ## Taking a path apart -/

/-- What stands before the components, a slash or a dot, and the rest. -/
def splitLead : List Char → List Char × List Char
  | '/' :: rest => (['/'], rest)
  | ['.'] => (['.'], [])
  | '.' :: '/' :: rest => (['.'], '/' :: rest)
  | chars => ([], chars)

/-- Components without those at the end that stand for nothing; the characters come last
one first, here and below. -/
def trimEnd : List Char → List Char
  | [] => []
  | '/' :: rest => trimEnd rest
  | ['.'] => []
  | '.' :: '/' :: rest => trimEnd rest
  | chars => chars

/-- The last component, and those before it. -/
def splitLast (body : List Char) : List Char × List Char :=
  (body.takeWhile (· ≠ '/'), trimEnd ((body.dropWhile (· ≠ '/')).drop 1))

/-- The last component, if it can name a file. -/
def fileName? (p : Path) : Option String :=
  let (_, body) := splitLead p.text.toList
  match trimEnd body.reverse with
  | [] => none
  | body =>
    let name := (splitLast body).1.reverse
    if name = ['.', '.'] then none else some (String.ofList name)

/-- The path of the folder: none for the root or for nothing. -/
def parent? (p : Path) : Option Path :=
  let (lead, body) := splitLead p.text.toList
  match trimEnd body.reverse with
  | [] => if lead = ['.'] then some ⟨""⟩ else none
  | body => some ⟨String.ofList (lead ++ (splitLast body).2.reverse)⟩

/-- A name cut at its last dot. -/
def splitName (name : List Char) : List Char × Option (List Char) :=
  match name.reverse.dropWhile (· ≠ '.') with
  | _ :: before =>
    if before.isEmpty then (name, none)
    else (before.reverse, some (name.reverse.takeWhile (· ≠ '.')).reverse)
  | [] => (name, none)

/-- The file's name without its extension. -/
def stem? (p : Path) : Option String :=
  p.fileName?.map fun name => String.ofList (splitName name.toList).1

/-- What follows the last dot of the file's name. -/
def extension? (p : Path) : Option String :=
  p.fileName?.bind fun name => (splitName name.toList).2.map String.ofList

/-! ## Putting a path together -/

def join (folder : Path) (name : String) : Path :=
  let chars := folder.text.toList
  if chars.isEmpty ∨ chars.getLast? = some '/' then ⟨folder.text ++ name⟩
  else ⟨folder.text ++ "/" ++ name⟩

/-- The components between the slashes, as they stand in the text. -/
def components (p : Path) : List String := p.text.splitOn "/"

/-! ## Limits -/

/-- The bytes of the longest path. -/
def maxBytes : Nat := 4095

/-- The bytes of the longest name of a file or folder. -/
def maxNameBytes : Nat := 255

/-- What is wrong with a path whatever it may lead to. -/
def fault? (p : Path) : Option FileFault :=
  if p.text.contains '\x00' then some .nulInName
  else if maxBytes < p.text.utf8ByteSize then some .nameTooLong
  else none

end Path

end EventMixing
