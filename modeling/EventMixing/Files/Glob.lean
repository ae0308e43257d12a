import EventMixing.Files.Path

/-!
# Patterns of paths

A pattern stands for the paths that it matches component by component. In a component a
star matches any characters, a question mark any one, and brackets one character of a
class, or with an exclamation mark first one outside of it; two stars alone match folders
at any depth. `Glob.parse?` refuses stars in other numbers or places and brackets that
are not closed.
-/

namespace EventMixing

namespace Glob

/-- Whether a character starts something other than itself in a pattern. -/
def isSpecial (c : Char) : Bool := c = '*' || c = '?' || c = '['

structure CharRange where
  first : Char
  last : Char
deriving DecidableEq, Repr

/-- What a character or more of a name may be. -/
inductive Item where
  | char (c : Char)
  | anyChar
  | anyChars
  | oneOf (ranges : List CharRange)
  | noneOf (ranges : List CharRange)
deriving DecidableEq, Repr

/-- A component of a pattern. -/
inductive Part where
  /-- The name itself. -/
  | name (text : String)
  | items (items : List Item)
  | anyDepth
deriving DecidableEq, Repr

/-! ## Reading a pattern -/

/-- The ranges of a class as they are written: a dash between two characters makes one. -/
def rangesOf : List Char → List CharRange
  | first :: '-' :: last :: rest => ⟨first, last⟩ :: rangesOf rest
  | c :: rest => ⟨c, c⟩ :: rangesOf rest
  | [] => []

/-- The class that a bracket opens, and the text behind the closing one. The first
character belongs to the class even if it closes a bracket. -/
def takeClass? : List Char → Option (List CharRange × List Char)
  | first :: rest =>
    match rest.dropWhile (· ≠ ']') with
    | _ :: behind => some (rangesOf (first :: rest.takeWhile (· ≠ ']')), behind)
    | [] => none
  | [] => none

theorem length_of_takeClass? {text ranges behind}
    (h : takeClass? text = some (ranges, behind)) : behind.length < text.length := by
  cases text with
  | nil => simp [takeClass?] at h
  | cons first rest =>
    simp only [takeClass?] at h
    split at h
    · rename_i c behind' dropped
      simp only [Option.some.injEq, Prod.mk.injEq] at h
      have := congrArg List.length dropped
      have := (List.dropWhile_suffix (p := fun c => decide (c ≠ ']')) (l := rest)).length_le
      simp_all
      omega
    · cases h

def itemsOf? (text : List Char) : Option (List Item) :=
  match text with
  | [] => some []
  | '*' :: '*' :: _ => none
  | '*' :: rest => (itemsOf? rest).map (.anyChars :: ·)
  | '?' :: rest => (itemsOf? rest).map (.anyChar :: ·)
  | '[' :: '!' :: rest =>
    match h : takeClass? rest with
    | some (ranges, behind) =>
      have := length_of_takeClass? h
      (itemsOf? behind).map (.noneOf ranges :: ·)
    | none => none
  | '[' :: rest =>
    match h : takeClass? rest with
    | some (ranges, behind) =>
      have := length_of_takeClass? h
      (itemsOf? behind).map (.oneOf ranges :: ·)
    | none => none
  | c :: rest => (itemsOf? rest).map (.char c :: ·)
termination_by text.length

def partOf? (component : String) : Option Part :=
  if component = "**" then some .anyDepth
  else if component.toList.any isSpecial then (itemsOf? component.toList).map .items
  else some (.name component)

/-- Parts without repetitions of any depth. -/
def joinDepths : List Part → List Part
  | .anyDepth :: .anyDepth :: rest => joinDepths (.anyDepth :: rest)
  | part :: rest => part :: joinDepths rest
  | [] => []

def parse? (p : Path) : Option (List Part) :=
  let components := p.components
  let components := if components.getLast? = some "" then components.dropLast else components
  (components.mapM partOf?).map joinDepths

/-! ## Matching a name -/

/-- Whether a range of the class holds a character. -/
def holds (ranges : List CharRange) (c : Char) : Bool :=
  ranges.any fun r => r.first ≤ c && c ≤ r.last

/-- Whether the items match a text, all of it. -/
def matchesText : List Item → List Char → Bool
  | [], text => text.isEmpty
  | .anyChars :: items, [] => matchesText items []
  | .anyChars :: items, c :: text =>
    matchesText items (c :: text) || matchesText (.anyChars :: items) text
  | _ :: _, [] => false
  | .char d :: items, c :: text => c = d && matchesText items text
  | .anyChar :: items, _ :: text => matchesText items text
  | .oneOf ranges :: items, c :: text => holds ranges c && matchesText items text
  | .noneOf ranges :: items, c :: text => !holds ranges c && matchesText items text
termination_by items text => (text.length, items.length)

def Part.matchesName (part : Part) (name : String) : Bool :=
  match part with
  | .name own => name = own
  | .items pattern => matchesText pattern name.toList
  | .anyDepth => false

end Glob

end EventMixing
