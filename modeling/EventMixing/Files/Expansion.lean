import EventMixing.Files.Glob
import EventMixing.Script

/-!
# The files that a path stands for

A path to a folder stands for all files below it, the shallow ones first; a path with a
pattern in it stands for the files that match, in alphabetical order of their components;
any other path stands for itself. Folders are passed over, and files without a byte too.
-/

namespace EventMixing

/-- The files that a path stands for. -/
structure Expansion where
  paths : List Path
  /-- The number of characters at the start of each path that led to them all. -/
  lead : Nat

namespace Expansion

def entries (folder : Path) : Command (List (Path × Option FileKind)) := do
  (← Command.listFolder folder).mapM fun name => do
    let p := folder.join name
    return (p, ← Command.inspect? p)

def ofKind (kind : FileKind) (entries : List (Path × Option FileKind)) : List Path :=
  entries.filterMap fun (p, k) => if k = some kind then some p else none

/-! ## All files below folders -/

/-- The files below folders of one depth: those in the folders, and then those deeper
down, as far as so many levels. -/
def filesBelow : Nat → List Path → Command (List Path)
  | 0, _ => pure []
  | _, [] => pure []
  | levels + 1, folders => do
    let found := (← folders.mapM entries).flatten
    return ofKind (.file false) found ++ (← filesBelow levels (ofKind .folder found))

/-- The files of a folder, all with one and the same extension. No folder lies deeper than
a path has bytes, so none is left out. -/
def ofFolder (folder : Path) : Command (List Path) := do
  let paths ← filesBelow Path.maxBytes [folder]
  let extensions := (paths.map fun p => p.extension?.getD "").eraseDups
  if 1 < extensions.length ∧ !folder.text.toList.any Glob.isSpecial then
    Command.ofOutcome (.tableFault "the folder holds files with different extensions")
  else return paths

/-! ## The files that match -/

/-- Whether a path stays where it starts, in the working folder. -/
def isHere (p : Path) : Bool := p.text.startsWith "." && p.components.all fun c => c = "" || c = "."

/-- The path of a name in a folder, that of the working folder being left out. -/
def step (folder : Path) (name : String) : Path :=
  if isHere folder then ⟨name⟩ else folder.join name

/-- The dots that stand for a folder and the one around it, if items that start with a
dot match them. -/
def matchingDots : List Glob.Item → List String
  | .char '.' :: items => ["..", "."].filter fun name =>
      Glob.matchesText (.char '.' :: items) name.toList
  | _ => []

/-- The paths that the parts of a pattern lead to from a folder, as far as so many levels
where the depth is open. -/
def search (levels : Nat) (parts : List Glob.Part) (here : Path) : Command (List Path) :=
  match parts with
  | [] => pure [here]
  | .name text :: rest => do
    let isDots := text = "." ∨ text = ".."
    let at? ← Command.inspect? (if isDots then here else step here text)
    if at?.isNone ∨ isDots ∧ at? ≠ some .folder then return []
    search levels rest (step here text)
  | .items items :: rest => do
    if (← Command.inspect? here) ≠ some .folder then return []
    let dots ← (matchingDots items).mapM fun name => search levels rest (here.join name)
    let names := (← Command.listFolder here).filter fun name =>
      Glob.matchesText items name.toList
    let found ← names.mapM fun name => search levels rest (step here name)
    return (dots ++ found).flatten
  | .anyDepth :: rest =>
    match levels with
    | 0 => pure []
    | levels + 1 => do
      if (← Command.inspect? here) ≠ some .folder then return []
      let found ← (← Command.listFolder here).mapM fun name => do
        let p := step here name
        let direct ← match rest with
          | [] => pure []
          | next :: rest' => if next.matchesName name then search levels rest' p else pure []
        return direct ++ (← search levels (.anyDepth :: rest) p)
      return found.flatten
termination_by (levels, parts.length)

/-- The files that a pattern matches. Those with a slash at their end match folders only,
which are no files, and nothing is found from the root. -/
def ofPattern (pattern : Path) : Command (List Path) := do
  match Glob.parse? pattern with
  | none => Command.ofOutcome (.tableFault "the path is no valid pattern")
  | some parts =>
    if pattern.text.startsWith "/" ∨ pattern.text.endsWith "/" then return []
    let found ← search Path.maxBytes parts ⟨"."⟩
    let found ← found.mapM fun p => return (p, ← Command.inspect? p)
    return ofKind (.file false) found

end Expansion

/-- The files that a path stands for, one at least. -/
def Path.expand (p : Path) : Command Expansion := do
  let isPattern := p.text.toList.any Glob.isSpecial
  let (paths, lead) ← match ← Command.inspect? p with
    | some .folder => do pure (← Expansion.ofFolder p, p.text.length)
    | _ => if isPattern then do pure (← Expansion.ofPattern p, 0) else pure ([p], 0)
  if paths.isEmpty then Command.ofOutcome (.tableFault "the path leads to no file")
  else return ⟨paths, lead⟩

end EventMixing
