import EventMixing.Variable

/-!
# The variables in use

Registering an axis announces its variable, so that a reader of events knows which
columns it needs. `VariableRegistry` is what can hear such announcements: a set of
variables, a log of them in order, or two registries side by side.
-/

namespace EventMixing

/-- What registration announces variables to. -/
class VariableRegistry (ρ : Type) where
  markUsed : ρ → Variable → ρ

/-- A set of variables. -/
structure VariableSet where
  marks : Vector Bool Variable.count
deriving DecidableEq

namespace VariableSet

def empty : VariableSet := ⟨Vector.replicate Variable.count false⟩

def contains (s : VariableSet) (v : Variable) : Bool := v.entry s.marks

def insert (s : VariableSet) (v : Variable) : VariableSet :=
  ⟨v.setEntry s.marks true⟩

/-- The members in declaration order. -/
def toList (s : VariableSet) : List Variable := Variable.all.filter s.contains

def size (s : VariableSet) : Nat := s.marks.count true

def isEmpty (s : VariableSet) : Bool := s.size == 0

theorem contains_empty (v : Variable) : empty.contains v = false :=
  Variable.entry_replicate false v

theorem contains_insert (s : VariableSet) (v w : Variable) :
    (s.insert v).contains w = (decide (v = w) || s.contains w) := by
  by_cases h : v = w
  · subst h
    simp [insert, contains]
  · simp [insert, contains, Variable.entry_setEntry_of_ne s.marks h, h]

theorem mem_toList {s : VariableSet} {v : Variable} : v ∈ s.toList ↔ s.contains v = true := by
  simp [toList, Variable.mem_all]

end VariableSet

instance : VariableRegistry VariableSet := ⟨VariableSet.insert⟩

/-- A log of every announcement, the latest last. -/
instance : VariableRegistry (List Variable) := ⟨fun log v => log ++ [v]⟩

/-- Two registries that hear the same announcements. -/
instance {ρ σ : Type} [VariableRegistry ρ] [VariableRegistry σ] : VariableRegistry (ρ × σ) :=
  ⟨fun (r, s) v => (VariableRegistry.markUsed r v, VariableRegistry.markUsed s v)⟩

end EventMixing
