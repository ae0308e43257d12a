import EventMixing.Text.Blank
import EventMixing.Text.Case

/-!
# Observables of an event

The twelve event-level quantities that an axis can bin, in their fixed order. Each
has a column name, by which tables and configurations refer to it.
-/

namespace EventMixing

/-- An event-level quantity. -/
inductive Variable where
  /-- Primary vertex X position (cm) -/
  | vtxX
  /-- Primary vertex Y position (cm) -/
  | vtxY
  /-- Primary vertex Z position (cm) -/
  | vtxZ
  /-- Number of tracks contributing to the primary vertex -/
  | vtxNcontrib
  /-- Centrality percentile from the V0M estimator -/
  | centV0m
  /-- Centrality percentile from the FT0C estimator -/
  | centFt0c
  /-- TPC track multiplicity -/
  | multTpc
  /-- FV0A amplitude -/
  | multFv0a
  /-- FT0A amplitude -/
  | multFt0a
  /-- FT0C amplitude -/
  | multFt0c
  /-- SPD/ITS tracklet multiplicity -/
  | multTracklets
  /-- Second-harmonic event plane angle -/
  | psi2
deriving DecidableEq, Repr

namespace Variable

abbrev count : Nat := 12

def all : List Variable :=
  [vtxX, vtxY, vtxZ, vtxNcontrib, centV0m, centFt0c,
   multTpc, multFv0a, multFt0a, multFt0c, multTracklets, psi2]

def index : Variable → Fin count
  | vtxX => 0
  | vtxY => 1
  | vtxZ => 2
  | vtxNcontrib => 3
  | centV0m => 4
  | centFt0c => 5
  | multTpc => 6
  | multFv0a => 7
  | multFt0a => 8
  | multFt0c => 9
  | multTracklets => 10
  | psi2 => 11

def name : Variable → String
  | vtxX => "vtx_x"
  | vtxY => "vtx_y"
  | vtxZ => "vtx_z"
  | vtxNcontrib => "vtx_ncontrib"
  | centV0m => "cent_v0m"
  | centFt0c => "cent_ft0c"
  | multTpc => "mult_tpc"
  | multFv0a => "mult_fv0a"
  | multFt0a => "mult_ft0a"
  | multFt0c => "mult_ft0c"
  | multTracklets => "mult_tracklets"
  | psi2 => "psi2"

/-- What the variable measures, for a human reader. -/
def description : Variable → String
  | vtxX => "Primary vertex X position (cm)"
  | vtxY => "Primary vertex Y position (cm)"
  | vtxZ => "Primary vertex Z position (cm)"
  | vtxNcontrib => "Primary vertex contributors"
  | centV0m => "Centrality V0M (%)"
  | centFt0c => "Centrality FT0C (%)"
  | multTpc => "TPC track multiplicity"
  | multFv0a => "FV0A amplitude"
  | multFt0a => "FT0A amplitude"
  | multFt0c => "FT0C amplitude"
  | multTracklets => "Tracklet multiplicity"
  | psi2 => "Second-harmonic event plane angle (rad)"

/-- The variable of a name, whatever its case and the blanks around it. -/
def ofName? (text : String) : Option Variable :=
  let wanted := String.ofList (lowerCase (trimBlanks text.toList))
  all.find? (·.name == wanted)

theorem mem_all (v : Variable) : v ∈ all := by cases v <;> simp [all]

theorem all_getElem?_index (v : Variable) : all[v.index.val]? = some v := by
  cases v <;> rfl

theorem index_injective {v w : Variable} (h : v.index = w.index) : v = w := by
  have := all_getElem?_index v
  rw [h, all_getElem?_index w] at this
  exact (Option.some.inj this).symm

/-! ## One entry for each variable -/

variable {α : Type}

def entry (entries : Vector α count) (v : Variable) : α := entries[v.index]

def setEntry (entries : Vector α count) (v : Variable) (a : α) : Vector α count :=
  entries.set v.index a

@[simp]
theorem entry_replicate (a : α) (v : Variable) : entry (Vector.replicate count a) v = a := by
  simp [entry]

@[simp]
theorem entry_setEntry_self (entries : Vector α count) (v : Variable) (a : α) :
    entry (setEntry entries v a) v = a := by simp [entry, setEntry]

theorem entry_setEntry_of_ne (entries : Vector α count) {v w : Variable} (h : v ≠ w) (a : α) :
    entry (setEntry entries v a) w = entry entries w := by
  have : v.index.val ≠ w.index.val := fun e => h (index_injective (Fin.ext e))
  simp [entry, setEntry, this]

end Variable

end EventMixing
