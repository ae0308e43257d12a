/-!
# Where a split array changes over

In an array whose elements with a property all come before those without it, the
number of elements with the property is the place where the property ends, and
halving finds it.
-/

namespace EventMixing

/-- Halving between `low`, before which the property holds, and `high`, from which
on it does not. -/
def partitionPointBetween {α : Type} (holds : α → Bool) (xs : Array α) (low high : Nat)
    (high_le : high ≤ xs.size) : Nat :=
  if h : low < high then
    let mid := low + (high - low) / 2
    if holds xs[mid] then partitionPointBetween holds xs (mid + 1) high high_le
    else partitionPointBetween holds xs low mid (by omega)
  else low
termination_by high - low
decreasing_by all_goals omega

/-- The number of elements before the property ends. -/
def partitionPoint {α : Type} (holds : α → Bool) (xs : Array α) : Nat :=
  partitionPointBetween holds xs 0 xs.size (Nat.le_refl _)

end EventMixing
