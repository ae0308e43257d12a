import EventMixing.Pooling
import EventMixing.Table

/-!
# Mixed pairs as a table

One row for each pair, with its category and the rows of its two events.
-/

namespace EventMixing

namespace Pooling

def pairColumn (name : String) (value : MixedPair → Nat) (pairs : List MixedPair) : Column :=
  ⟨name, .integer .u64 (pairs.map fun p => some ((value p : Nat) : Int))⟩

def pairTable (pairs : List MixedPair) : Table where
  columns := [
    pairColumn "category" (·.category.toNat) pairs,
    pairColumn "first_row" (·.first) pairs,
    pairColumn "second_row" (·.second) pairs]
  sized := by simp [pairColumn, rowCount, ColumnData.length]
  distinct := by simp [pairColumn]

end Pooling

end EventMixing
