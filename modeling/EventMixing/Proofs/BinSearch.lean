import Mathlib.Algebra.GroupWithZero.Nat
import EventMixing.Proofs.Edges

/-!
# What the search for a bin counts

Halving looks at one element after the other until its bounds meet. `HalvesTo` follows it
look by look, and `halvesTo_partitionPointBetween` says that it ends, after as many looks as
the distance of the bounds has binary digits at most. Where the elements with the property
come first, the place that it ends at is their number (`partitionPoint_eq_countP`), which a
scan of all elements would come to as well.

For the edges of an axis that number gives away the bin: the only one that a value can be
in, and none for a value that is no number or beyond the outermost edges. The search
compares keys, so it cannot tell the zeros apart (`Axis.findBin?_eq_of_eqUpToZeroSign`).
-/

namespace EventMixing

/-! ## Look by look -/

section Halving

variable {α : Type} {holds : α → Bool} {xs : Array α}

/-- Halving from two bounds on, the number of elements looked at, and where the bounds
meet. -/
inductive HalvesTo (holds : α → Bool) (xs : Array α) : Nat → Nat → Nat → Nat → Prop
  | meet {low high : Nat} (h : high ≤ low) : HalvesTo holds xs low high 0 low
  | goUp {low high looks result : Nat} {x : α} (h : low < high)
      (look : xs[low + (high - low) / 2]? = some x) (hx : holds x = true)
      (rest : HalvesTo holds xs (low + (high - low) / 2 + 1) high looks result) :
      HalvesTo holds xs low high (looks + 1) result
  | goDown {low high looks result : Nat} {x : α} (h : low < high)
      (look : xs[low + (high - low) / 2]? = some x) (hx : holds x = false)
      (rest : HalvesTo holds xs low (low + (high - low) / 2) looks result) :
      HalvesTo holds xs low high (looks + 1) result

/-- Each look halves the distance at least, so that no more are needed than it can be
halved. -/
theorem HalvesTo.looks_le {low high looks result : Nat}
    (h : HalvesTo holds xs low high looks result) {k : Nat} (hk : high - low < 2 ^ k) :
    looks ≤ k := by
  induction h generalizing k with
  | meet => exact Nat.zero_le k
  | @goUp low high looks result x hlow look hx rest ih =>
      cases k with
      | zero =>
          rw [pow_zero] at hk
          omega
      | succ k =>
          rw [pow_succ] at hk
          exact Nat.succ_le_succ (ih (by omega))
  | @goDown low high looks result x hlow look hx rest ih =>
      cases k with
      | zero =>
          rw [pow_zero] at hk
          omega
      | succ k =>
          rw [pow_succ] at hk
          exact Nat.succ_le_succ (ih (by omega))

theorem halvesTo_partitionPointBetween {low high : Nat} (hhigh : high ≤ xs.size) :
    ∃ looks, HalvesTo holds xs low high looks
      (partitionPointBetween holds xs low high hhigh) := by
  fun_induction partitionPointBetween holds xs low high hhigh with
  | case1 low high hhigh h mid hmid ih =>
      obtain ⟨looks, hlooks⟩ := ih
      exact ⟨looks + 1, .goUp h (Array.getElem?_eq_getElem (by omega)) hmid hlooks⟩
  | case2 low high hhigh h mid hmid ih =>
      obtain ⟨looks, hlooks⟩ := ih
      exact ⟨looks + 1,
        .goDown h (Array.getElem?_eq_getElem (by omega)) (Bool.not_eq_true _ ▸ hmid) hlooks⟩
  | case3 low high hhigh h => exact ⟨0, .meet (Nat.le_of_not_lt h)⟩

/-- The search through all elements ends, after as many looks as their number has binary
digits at most. -/
theorem exists_halvesTo_partitionPoint (holds : α → Bool) (xs : Array α) :
    ∃ looks, HalvesTo holds xs 0 xs.size looks (partitionPoint holds xs) ∧
      looks ≤ xs.size.log2 + 1 := by
  obtain ⟨looks, hlooks⟩ : ∃ looks, HalvesTo holds xs 0 xs.size looks (partitionPoint holds xs) :=
    halvesTo_partitionPointBetween (Nat.le_refl xs.size)
  exact ⟨looks, hlooks, hlooks.looks_le Nat.lt_log2_self⟩

/-! ## Counting -/

/-- The place where the property ends is the number of elements that have it. -/
theorem partitionPoint_eq_countP (hs : Splits holds xs) :
    partitionPoint holds xs = xs.countP holds := by
  have hle : partitionPoint holds xs ≤ xs.toList.length := partitionPoint_le_size
  have hbefore : ∀ x ∈ xs.toList.take (partitionPoint holds xs), holds x = true := by
    intro x hx
    obtain ⟨i, hi, rfl⟩ := List.mem_take_iff_getElem.mp hx
    exact (lt_partitionPoint_iff hs _).mp (Nat.lt_of_lt_of_le hi (Nat.min_le_left _ _))
  have hafter : ∀ x ∈ xs.toList.drop (partitionPoint holds xs), ¬ holds x = true := by
    intro x hx hholds
    obtain ⟨i, hi, rfl⟩ := List.mem_drop_iff_getElem.mp hx
    rw [Nat.add_comm] at hi
    have hlt := (lt_partitionPoint_iff hs hi).mpr hholds
    omega
  calc partitionPoint holds xs
      = (xs.toList.take (partitionPoint holds xs)).length := (List.length_take_of_le hle).symm
    _ = (xs.toList.take (partitionPoint holds xs)).countP holds
          + (xs.toList.drop (partitionPoint holds xs)).countP holds := by
        rw [List.countP_eq_length.mpr hbefore, List.countP_eq_zero.mpr hafter, Nat.add_zero]
    _ = xs.toList.countP holds := by rw [← List.countP_append, List.take_append_drop]
    _ = xs.countP holds := Array.countP_toList

end Halving

/-! ## One bin or none -/

/-- What lies between finite numbers is finite. -/
theorem Double.isFinite_of_le_of_lt {a b x : Double} (ha : a.isFinite = true)
    (hb : b.isFinite = true) (hax : a ≤ x) (hxb : x < b) : x.isFinite = true := by
  have hkey : ∀ d : Double, d.key.natAbs = d.magnitude := by
    intro d
    rw [key]
    split <;> omega
  have hbounds : ∀ d : Double, d.isFinite = true → d.key.natAbs < infinityMagnitude := by
    intro d hd
    rw [hkey]
    exact of_decide_eq_true hd
  have hlower := hbounds a ha
  have hupper := hbounds b hb
  have hle := (le_def.mp hax).2
  have hlt := (lt_def.mp hxb).2
  rw [isFinite, decide_eq_true_eq, ← hkey]
  omega

namespace Axis

variable {axis : Axis} {x y : Double}

theorem reached_eq_countP (axis : Axis) (x : Double) :
    axis.reached x = axis.edges.countP fun edge => decide (edge ≤ x) :=
  partitionPoint_eq_countP (axis.splits_edges x)

theorem inBin_iff_getElem? {bin : Nat} :
    axis.InBin bin x ↔ bin < axis.binCount ∧ ∃ lower upper,
      axis.edges[bin]? = some lower ∧ axis.edges[bin + 1]? = some upper ∧
        lower ≤ x ∧ x < upper := by
  constructor
  · intro h
    obtain ⟨lower, upper, hbounds, hvalue⟩ := id h
    obtain ⟨hlower, hupper⟩ := edges_of_binBounds? hbounds
    exact ⟨h.lt_binCount, lower, upper, hlower, hupper, hvalue⟩
  · rintro ⟨hbin, lower, upper, hlower, hupper, hvalue⟩
    obtain ⟨lower', upper', hbounds⟩ := exists_binBounds? hbin
    obtain ⟨hlower', hupper'⟩ := edges_of_binBounds? hbounds
    obtain rfl := Option.some.inj (hlower.symm.trans hlower')
    obtain rfl := Option.some.inj (hupper.symm.trans hupper')
    exact ⟨_, _, hbounds, hvalue⟩

/-- The bins of an axis do not overlap. -/
theorem InBin.unique {bin bin' : Nat} (h : axis.InBin bin x) (h' : axis.InBin bin' x) :
    bin = bin' :=
  Option.some.inj ((findBin?_eq_some_iff.mpr h).symm.trans (findBin?_eq_some_iff.mpr h'))

theorem getElem?_zero (axis : Axis) : axis.edges[0]? = some axis.lowestEdge :=
  Array.getElem?_eq_getElem _

theorem back?_edges (axis : Axis) : axis.edges.back? = some axis.highestEdge :=
  Array.getElem?_eq_getElem _

/-- No bin holds an infinity or a NaN, for all edges are finite. -/
theorem findBin?_eq_none_of_not_isFinite (axis : Axis) (h : x.isFinite = false) :
    axis.findBin? x = none := by
  rw [Option.eq_none_iff_forall_ne_some]
  intro bin hbin
  obtain ⟨hedge, hedge', hlower, hupper⟩ := inBin_iff.mp (findBin?_eq_some_iff.mp hbin)
  have hfinite := Double.isFinite_of_le_of_lt (axis.finite _ (Array.getElem_mem hedge))
    (axis.finite _ (Array.getElem_mem hedge')) hlower hupper
  rw [h] at hfinite
  cases hfinite

/-- The search looks at the number alone, not at the sign of a zero. -/
theorem findBin?_eq_of_eqUpToZeroSign (h : x.EqUpToZeroSign y) :
    axis.findBin? x = axis.findBin? y := by
  have hle : ∀ edge : Double, edge ≤ x ↔ edge ≤ y := fun edge =>
    Double.EqUpToZeroSign.le_iff (Or.inl rfl) h
  simp only [findBin?, hle]

/-- The search for a bin ends and counts the edges at or below the value, as a scan of all of
them would. It finds a bin exactly where the value lies at or above the bin's lower edge and
below its upper one, which is so of one bin at most, and none exactly for a NaN, below the
first edge and from the last edge on. So there is none for an infinity, and the zeros of
both signs share theirs. -/
theorem findBin?_finds_half_open_bin {v : Variable} {edges : Array Double}
    (h : ofEdges v edges = .ok axis) (x : Double) :
    (∃ looks, HalvesTo (fun edge => decide (edge ≤ x)) edges 0 edges.size looks
        (partitionPoint (fun edge => decide (edge ≤ x)) edges) ∧
      looks ≤ edges.size.log2 + 1) ∧
    partitionPoint (fun edge => decide (edge ≤ x)) edges
      = edges.countP (fun edge => decide (edge ≤ x)) ∧
    (∀ bin, axis.findBin? x = some bin ↔ bin < axis.binCount ∧ ∃ lower upper,
      edges[bin]? = some lower ∧ edges[bin + 1]? = some upper ∧ lower ≤ x ∧ x < upper) ∧
    (∀ bin bin', axis.InBin bin x → axis.InBin bin' x → bin = bin') ∧
    (axis.findBin? x = none ↔ x.isNaN = true ∨
      (∃ first, edges[0]? = some first ∧ x < first) ∨
      ∃ last, edges.back? = some last ∧ last ≤ x) ∧
    (x.isFinite = false → axis.findBin? x = none) ∧
    axis.findBin? .infinity = none ∧ axis.findBin? Double.infinity.neg = none ∧
    axis.findBin? Double.zero.neg = axis.findBin? .zero := by
  obtain ⟨-, rfl⟩ := eq_of_ofEdges h
  refine ⟨exists_halvesTo_partitionPoint _ _, axis.reached_eq_countP x, fun bin => ?_,
    fun bin bin' => InBin.unique, ?_, axis.findBin?_eq_none_of_not_isFinite,
    axis.findBin?_eq_none_of_not_isFinite (by decide),
    axis.findBin?_eq_none_of_not_isFinite (by decide),
    findBin?_eq_of_eqUpToZeroSign (Or.inr (by decide))⟩
  · rw [findBin?_eq_some_iff, inBin_iff_getElem?]
  · rw [findBin?_eq_none_iff, axis.getElem?_zero, axis.back?_edges]
    simp only [Option.some.injEq, exists_eq_left']

/-- Of three edges the one in the middle is a zero, and opens its bin for zeros of both
signs. -/
theorem findBin?_finds_half_open_bin_zeros :
    ∃ axis, ofEdges .vtxZ #[⟨0xBFF0000000000000⟩, ⟨0⟩, ⟨0x3FF0000000000000⟩] = .ok axis ∧
      axis.findBin? Double.zero.neg = some 1 ∧ axis.findBin? .zero = some 1 ∧
      axis.findBin? ⟨0xBFF0000000000000⟩ = some 0 ∧
      axis.findBin? ⟨0x3FF0000000000000⟩ = none ∧ axis.findBin? .nan = none := by
  obtain ⟨axis, haxis⟩ : ∃ axis,
      ofEdges .vtxZ #[⟨0xBFF0000000000000⟩, ⟨0⟩, ⟨0x3FF0000000000000⟩] = .ok axis :=
    exists_ofEdges_iff.mpr ⟨by decide, by decide, fun i j hij hj =>
      List.pairwise_iff_getElem.mp (by decide) i j (Nat.lt_trans hij hj) hj hij⟩
  have hcount : axis.binCount = 2 := by
    rw [binCount, (eq_of_ofEdges haxis).2]
    rfl
  have hfound := fun x => (findBin?_finds_half_open_bin haxis x).2.2.1
  obtain ⟨-, -, -, -, hlast, -, -, -, hzeros⟩ :=
    findBin?_finds_half_open_bin haxis ⟨0x3FF0000000000000⟩
  have hzero : axis.findBin? .zero = some 1 :=
    (hfound .zero 1).mpr ⟨by omega, _, _, rfl, rfl, by decide, by decide⟩
  exact ⟨axis, haxis, hzeros.trans hzero, hzero,
    (hfound _ 0).mpr ⟨by omega, _, _, rfl, rfl, by decide, by decide⟩,
    hlast.mpr (Or.inr (Or.inr ⟨_, rfl, by decide⟩)),
    (findBin?_finds_half_open_bin haxis .nan).2.2.2.2.2.1 (by decide)⟩

end Axis

end EventMixing
