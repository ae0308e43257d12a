import EventMixing.Axis

/-!
# The bin that holds a value

Halving finds where the edges at or below a value end, because the edges of
an axis ascend strictly: an edge at or below the value has all earlier ones
below it too. A NaN reaches no edge at all, so nothing special is done for it.

From that follow the two sides of the search for a bin. `findBin?_eq_some_iff`
says that a value is found in a bin exactly when it lies between the bin's
edges, the lower one included; `findBin?_eq_none_iff` says that none is found
exactly for a NaN and outside the outermost edges.
-/

namespace EventMixing

/-! ## The order of doubles -/

namespace Double

theorem le_of_lt {a b : Double} (h : a < b) : a ≤ b := by
  obtain ⟨hc, hk⟩ := lt_def.mp h
  exact le_def.mpr ⟨hc, Int.le_of_lt hk⟩

theorem le_refl_of_lt {a b : Double} (h : a < b) : a ≤ a := by
  obtain ⟨⟨ha, -⟩, -⟩ := lt_def.mp h
  exact le_def.mpr ⟨⟨ha, ha⟩, Int.le_refl _⟩

theorem le_trans {a b c : Double} (hab : a ≤ b) (hbc : b ≤ c) : a ≤ c := by
  obtain ⟨⟨ha, -⟩, hk⟩ := le_def.mp hab
  obtain ⟨⟨-, hc⟩, hk'⟩ := le_def.mp hbc
  exact le_def.mpr ⟨⟨ha, hc⟩, Int.le_trans hk hk'⟩

theorem lt_trans {a b c : Double} (hab : a < b) (hbc : b < c) : a < c := by
  obtain ⟨⟨ha, -⟩, hk⟩ := lt_def.mp hab
  obtain ⟨⟨-, hc⟩, hk'⟩ := lt_def.mp hbc
  exact lt_def.mpr ⟨⟨ha, hc⟩, Int.lt_trans hk hk'⟩

theorem lt_of_le_of_lt {a b c : Double} (hab : a ≤ b) (hbc : b < c) : a < c := by
  obtain ⟨⟨ha, -⟩, hk⟩ := le_def.mp hab
  obtain ⟨⟨-, hc⟩, hk'⟩ := lt_def.mp hbc
  exact lt_def.mpr ⟨⟨ha, hc⟩, Int.lt_of_le_of_lt hk hk'⟩

theorem not_lt_of_le {a b : Double} (h : a ≤ b) : ¬ b < a := by
  intro hlt
  have hk := (le_def.mp h).2
  have hk' := (lt_def.mp hlt).2
  omega

theorem isNaN_of_isFinite {d : Double} (h : d.isFinite = true) : d.isNaN = false := by
  simp only [isFinite, decide_eq_true_eq] at h
  simp only [isNaN, decide_eq_false_iff_not]
  omega

/-- Beside a number, only a NaN is neither below nor at or above. -/
theorem not_le_iff {a x : Double} (ha : a.isNaN = false) :
    ¬ a ≤ x ↔ x.isNaN = true ∨ x < a := by
  rw [le_def, lt_def]
  simp only [Comparable, ha, true_and, and_true]
  cases x.isNaN <;> simp

end Double

/-! ## Halving -/

section Halving

variable {α : Type} {holds : α → Bool} {xs : Array α}

/-- No element with the property comes after one without it. -/
def Splits (holds : α → Bool) (xs : Array α) : Prop :=
  ∀ i j (_ : i ≤ j) (hj : j < xs.size), holds xs[j] = true → holds xs[i] = true

/-- Halving keeps its two bounds apart: the property holds before the lower one
and fails from the upper one on. Where they meet, it ends. -/
theorem lt_partitionPointBetween_iff (hs : Splits holds xs) {low high : Nat}
    (hhigh : high ≤ xs.size) (hle : low ≤ high)
    (hbelow : ∀ i (hi : i < xs.size), i < low → holds xs[i] = true)
    (habove : ∀ i (hi : i < xs.size), high ≤ i → ¬ holds xs[i] = true) :
    ∀ i (hi : i < xs.size),
      i < partitionPointBetween holds xs low high hhigh ↔ holds xs[i] = true := by
  fun_induction partitionPointBetween holds xs low high hhigh with
  | case1 low high hhigh h mid hmid ih =>
      refine ih (by omega) (fun i hi hlt => ?_) habove
      exact hs i mid (by omega) (by omega) hmid
  | case2 low high hhigh h mid hmid ih =>
      refine ih (by omega) hbelow (fun i hi hge hholds => hmid ?_)
      exact hs mid i hge hi hholds
  | case3 low high hhigh h =>
      intro i hi
      constructor
      · exact hbelow i hi
      · intro hholds
        refine Nat.lt_of_not_le (fun hge => habove i hi ?_ hholds)
        omega

theorem partitionPointBetween_le {low high : Nat} (hhigh : high ≤ xs.size)
    (hle : low ≤ high) : partitionPointBetween holds xs low high hhigh ≤ xs.size := by
  fun_induction partitionPointBetween holds xs low high hhigh with
  | case1 low high hhigh h mid hmid ih => exact ih (by omega)
  | case2 low high hhigh h mid hmid ih => exact ih (by omega)
  | case3 low high hhigh h => omega

theorem lt_partitionPoint_iff (hs : Splits holds xs) {i : Nat} (hi : i < xs.size) :
    i < partitionPoint holds xs ↔ holds xs[i] = true :=
  lt_partitionPointBetween_iff hs (Nat.le_refl _) (Nat.zero_le _)
    (fun _ _ hlt => absurd hlt (Nat.not_lt_zero _)) (fun _ hi hge => absurd hi (by omega)) i hi

theorem partitionPoint_le_size : partitionPoint holds xs ≤ xs.size :=
  partitionPointBetween_le (Nat.le_refl _) (Nat.zero_le _)

end Halving

namespace Axis

/-! ## The edges of an axis -/

theorem edge_isNaN (axis : Axis) {i : Nat} (hi : i < axis.edges.size) :
    axis.edges[i].isNaN = false :=
  Double.isNaN_of_isFinite (axis.finite _ (Array.getElem_mem hi))

/-- Not only neighbours ascend. -/
theorem edges_lt (axis : Axis) {i j : Nat} (hij : i < j) (hj : j < axis.edges.size) :
    axis.edges[i] < axis.edges[j] := by
  induction j with
  | zero => omega
  | succ j ih =>
      rcases Nat.eq_or_lt_of_le (Nat.le_of_lt_succ hij) with rfl | hlt
      · exact axis.ascending i hj
      · exact Double.lt_trans (ih hlt (by omega)) (axis.ascending j hj)

theorem ascending_of_pairwise {edges : Array Double} (h : edges.toList.Pairwise (· < ·)) :
    ∀ i, (hi : i < edges.size) → (hi' : i + 1 < edges.size) → edges[i] < edges[i + 1] := by
  intro i hi hi'
  exact List.pairwise_iff_getElem.mp h i (i + 1) hi hi' (Nat.lt_succ_self i)

/-- The edges at or below a value come before the others. -/
theorem splits_edges (axis : Axis) (value : Double) :
    Splits (fun edge => decide (edge ≤ value)) axis.edges := by
  intro i j hij hj hle
  simp only [decide_eq_true_eq] at hle ⊢
  rcases Nat.eq_or_lt_of_le hij with rfl | hlt
  · exact hle
  · exact Double.le_trans (Double.le_of_lt (axis.edges_lt hlt hj)) hle

/-- How many edges a value has reached. -/
def reached (axis : Axis) (value : Double) : Nat :=
  partitionPoint (fun edge => decide (edge ≤ value)) axis.edges

theorem lt_reached_iff (axis : Axis) (value : Double) {i : Nat}
    (hi : i < axis.edges.size) : i < axis.reached value ↔ axis.edges[i] ≤ value := by
  rw [reached, lt_partitionPoint_iff (axis.splits_edges value) hi, decide_eq_true_eq]

theorem reached_le_size (axis : Axis) (value : Double) :
    axis.reached value ≤ axis.edges.size :=
  partitionPoint_le_size

theorem findBin?_eq (axis : Axis) (value : Double) :
    axis.findBin? value =
      if axis.reached value = 0 ∨ axis.reached value = axis.edges.size then none
      else some (axis.reached value - 1) := rfl

def lowestEdge (axis : Axis) : Double :=
  have := axis.two_le_size
  axis.edges[0]

def highestEdge (axis : Axis) : Double :=
  have := axis.two_le_size
  axis.edges[axis.edges.size - 1]

theorem exists_binBounds? {axis : Axis} {bin : Nat} (h : bin < axis.binCount) :
    ∃ lower upper, axis.binBounds? bin = some (lower, upper) := by
  have hedge : bin + 1 < axis.edges.size := by
    unfold binCount at h
    omega
  exact ⟨_, _, dif_pos hedge⟩

theorem edges_of_binBounds? {axis : Axis} {bin : Nat} {lower upper : Double}
    (h : axis.binBounds? bin = some (lower, upper)) :
    axis.edges[bin]? = some lower ∧ axis.edges[bin + 1]? = some upper := by
  unfold binBounds? at h
  split at h
  · rename_i hedge
    obtain ⟨rfl, rfl⟩ := Prod.mk.injEq .. |>.mp (Option.some.inj h)
    exact ⟨Array.getElem?_eq_getElem _, Array.getElem?_eq_getElem hedge⟩
  · cases h

/-- No bin is empty. -/
theorem lt_of_binBounds? {axis : Axis} {bin : Nat} {lower upper : Double}
    (h : axis.binBounds? bin = some (lower, upper)) : lower < upper := by
  obtain ⟨hlower, hupper⟩ := edges_of_binBounds? h
  obtain ⟨_, rfl⟩ := Array.getElem?_eq_some_iff.mp hlower
  obtain ⟨hedge, rfl⟩ := Array.getElem?_eq_some_iff.mp hupper
  exact axis.ascending bin hedge

/-! ## The search for a bin -/

/-- The value lies in the bin: at or above its lower edge and below its upper one. -/
def InBin (axis : Axis) (bin : Nat) (value : Double) : Prop :=
  ∃ lower upper, axis.binBounds? bin = some (lower, upper) ∧ lower ≤ value ∧ value < upper

theorem inBin_iff {axis : Axis} {bin : Nat} {value : Double} :
    axis.InBin bin value ↔
      ∃ (_ : bin < axis.edges.size) (_ : bin + 1 < axis.edges.size),
        axis.edges[bin] ≤ value ∧ value < axis.edges[bin + 1] := by
  unfold InBin binBounds?
  constructor
  · rintro ⟨lower, upper, hbounds, hlower, hupper⟩
    split at hbounds
    · rename_i h
      obtain ⟨rfl, rfl⟩ := Prod.mk.injEq .. |>.mp (Option.some.inj hbounds)
      exact ⟨Nat.lt_of_succ_lt h, h, hlower, hupper⟩
    · cases hbounds
  · rintro ⟨_, h, hlower, hupper⟩
    exact ⟨_, _, dif_pos h, hlower, hupper⟩

theorem InBin.lt_binCount {axis : Axis} {bin : Nat} {value : Double}
    (h : axis.InBin bin value) : bin < axis.binCount := by
  obtain ⟨_, hbin, -⟩ := inBin_iff.mp h
  unfold binCount
  omega

/-- A value lies in a bin exactly when it has reached the bin's lower edge as its
last one. -/
theorem inBin_iff_reached {axis : Axis} {bin : Nat} {value : Double} :
    axis.InBin bin value ↔ bin + 1 < axis.edges.size ∧ axis.reached value = bin + 1 := by
  rw [inBin_iff]
  constructor
  · rintro ⟨_, hbin, hlower, hupper⟩
    have hge : bin < axis.reached value := (axis.lt_reached_iff value (by omega)).mpr hlower
    have hle : ¬ bin + 1 < axis.reached value := fun hlt =>
      Double.not_lt_of_le ((axis.lt_reached_iff value hbin).mp hlt) hupper
    exact ⟨hbin, by omega⟩
  · rintro ⟨hbin, hreached⟩
    have hlower : axis.edges[bin] ≤ value := (axis.lt_reached_iff value (by omega)).mp (by omega)
    have hupper : ¬ axis.edges[bin + 1] ≤ value := fun hle => by
      have := (axis.lt_reached_iff value hbin).mpr hle
      omega
    refine ⟨Nat.lt_of_succ_lt hbin, hbin, hlower, ?_⟩
    rcases (Double.not_le_iff (axis.edge_isNaN hbin)).mp hupper with hnan | hlt
    · -- an edge was reached, so the value is a number
      have hnumber := (Double.le_def.mp hlower).1.2
      rw [hnumber] at hnan
      cases hnan
    · exact hlt

/-- A value is found in a bin exactly when it lies in it. -/
theorem findBin?_eq_some_iff {axis : Axis} {bin : Nat} {value : Double} :
    axis.findBin? value = some bin ↔ axis.InBin bin value := by
  have hle := axis.reached_le_size value
  rw [findBin?_eq, inBin_iff_reached]
  split
  · simp only [reduceCtorEq, false_iff]
    omega
  · simp only [Option.some.injEq]
    omega

/-- No bin is found exactly for a NaN and outside the outermost edges. -/
theorem findBin?_eq_none_iff {axis : Axis} {value : Double} :
    axis.findBin? value = none ↔
      value.isNaN = true ∨ value < axis.lowestEdge ∨ axis.highestEdge ≤ value := by
  have hsize := axis.two_le_size
  have hle := axis.reached_le_size value
  have hzero : axis.reached value = 0 ↔ value.isNaN = true ∨ value < axis.lowestEdge := by
    rw [lowestEdge, ← Double.not_le_iff (axis.edge_isNaN _), ← axis.lt_reached_iff value (by omega)]
    omega
  have hall : axis.reached value = axis.edges.size ↔ axis.highestEdge ≤ value := by
    rw [highestEdge, ← axis.lt_reached_iff value (by omega)]
    omega
  rw [findBin?_eq, ← or_assoc, ← hzero, ← hall]
  split <;> simp_all

end Axis

end EventMixing
