import EventMixing.Pools

/-!
# Mixing a list of categorized rows

Rows stream through the pools in order. Each categorized row is paired with the rows
its category's pool holds, and the counts of each category are kept beside the pairs.
-/

namespace EventMixing

/-- The depth of the pools where nothing else is asked for. -/
def defaultMixingDepth : Nat := 5

/-- Two rows of one category, the pooled one first. -/
structure MixedPair where
  category : UInt64
  first : Nat
  second : Nat
deriving DecidableEq, Repr

/-- The rows of one category and the pairs among them. -/
structure Occupancy where
  category : UInt64
  events : Nat
  mixedPairs : Nat
deriving DecidableEq, Repr

/-- The outcome of pooling: row counts, the occupied categories in ascending order, and
the pairs in the order in which they arose. -/
structure Pooling where
  rows : Nat
  categorized : Nat
  rejected : Nat
  occupancy : List Occupancy
  pairs : List MixedPair
deriving DecidableEq, Repr

namespace Pooling

/-- What pooling knows after some rows. -/
structure Progress where
  pools : Pools Nat
  counts : Std.TreeMap UInt64 Occupancy
  pairs : Array MixedPair
  rejected : Nat
  row : Nat

/-- One more event with so many partners. -/
def countEvent (category : UInt64) (partners : Nat) : Option Occupancy → Occupancy
  | none => ⟨category, 1, partners⟩
  | some o => ⟨o.category, o.events + 1, o.mixedPairs + partners⟩

/-- The next row, with its category if it has one. -/
def Progress.step (s : Progress) : Option UInt64 → Progress
  | none => { s with rejected := s.rejected + 1, row := s.row + 1 }
  | some category =>
    let (partners, pools) := s.pools.insert category s.row
    { pools
      counts := s.counts.insert category
        (countEvent category partners.length s.counts[category]?)
      pairs := s.pairs ++ partners.map fun first => MixedPair.mk category first s.row
      rejected := s.rejected
      row := s.row + 1 }

def Progress.outcome (s : Progress) : Pooling :=
  { rows := s.row
    categorized := s.row - s.rejected
    rejected := s.rejected
    occupancy := s.counts.values
    pairs := s.pairs.toList }

/-- The outcome for rows with these categories. -/
def ofCategories (categories : List (Option UInt64)) (depth : Nat) :
    Except MixingError Pooling :=
  match Pools.ofDepth depth with
  | .error e => .error e
  | .ok pools => .ok (categories.foldl Progress.step ⟨pools, ∅, #[], 0, 0⟩).outcome

end Pooling

end EventMixing
