import Mathlib.Algebra.BigOperators.Group.List.Basic
import EventMixing.Proofs.Cells

/-!
# Weights and the room for them

The weight of an axis is the number of cells that the axes behind it make.
Since no axis is without a bin, these products never shrink on the way to the
first axis, and checking each of them is checking the last one alone: `build`
fails exactly where the number of all cells has no 64-bit word
(`layOut?_eq_none_iff`, `build_mixed_radix`).

Only `build` checks. Categorizing and encoding add up shares without looking,
and `AddsUp` says of the places that they have passed that nothing wrapped
around: they never come to the number of all cells, which is known to fit
(`sums_below_total`).
-/

namespace EventMixing

/-! ## Products of bin counts -/

/-- The number of cells that axes make, reckoned without bound. -/
def cellCount (axes : List Axis) : Nat := (axes.map Axis.binCount).prod

@[simp] theorem cellCount_nil : cellCount [] = 1 := rfl

theorem cellCount_cons (axis : Axis) (axes : List Axis) :
    cellCount (axis :: axes) = cellCount axes * axis.binCount := by
  rw [cellCount, List.map_cons, List.prod_cons, Nat.mul_comm, cellCount]

theorem cellCount_pos (axes : List Axis) : 0 < cellCount axes := by
  induction axes with
  | nil => exact Nat.one_pos
  | cons axis axes ih =>
      rw [cellCount_cons]
      exact Nat.mul_pos ih axis.binCount_pos

/-- More axes never make fewer cells. -/
theorem cellCount_le_cons (axis : Axis) (axes : List Axis) :
    cellCount axes ≤ cellCount (axis :: axes) := by
  rw [cellCount_cons]
  exact Nat.le_mul_of_pos_right _ axis.binCount_pos

theorem cellCount_perm {axes axes' : List Axis} (h : axes.Perm axes') :
    cellCount axes = cellCount axes' :=
  (h.map _).prod_eq

namespace LaidOut

variable {places : List Place} {cells : UInt64}

theorem cells_eq (h : LaidOut places cells) :
    cells.toNat = cellCount (places.map (·.axis)) := by
  induction h with
  | nil => rfl
  | cons rest fits ih => rw [fits, ih, List.map_cons, cellCount_cons]

/-- A place weighs as much as there are cells behind it. -/
theorem weight_eq (h : LaidOut places cells) {i : Nat} {p : Place} (hp : places[i]? = some p) :
    p.weight.toNat = cellCount ((places.map (·.axis)).drop (i + 1)) := by
  induction h generalizing i with
  | nil => cases hp
  | @cons axis places cells total rest fits ih =>
      rw [List.map_cons, List.drop_succ_cons]
      cases i with
      | zero =>
          obtain rfl := Option.some.inj hp
          exact rest.cells_eq
      | succ i => exact ih hp

end LaidOut

/-- Laying out stops at the first product without a word, and there is one exactly where
that of all bin counts has none. -/
theorem layOut?_eq_none_iff {axes : List Axis} :
    Blueprint.layOut? axes = none ↔ UInt64.size ≤ cellCount axes := by
  induction axes with
  | nil =>
      simp only [Blueprint.layOut?, reduceCtorEq, cellCount_nil, false_iff]
      decide
  | cons axis axes ih =>
      cases hrest : Blueprint.layOut? axes with
      | none =>
          have hbig : UInt64.size ≤ cellCount axes := ih.mp hrest
          simp only [Blueprint.layOut?, hrest, true_iff]
          exact Nat.le_trans hbig (cellCount_le_cons axis axes)
      | some laid =>
          obtain ⟨places, cells⟩ := laid
          obtain ⟨rfl, hlaid⟩ := layOut?_eq_some_iff.mp hrest
          simp only [Blueprint.layOut?, hrest, Option.map_eq_none_iff,
            Blueprint.checkedMul_eq_none_iff]
          rw [cellCount_cons, hlaid.cells_eq]

namespace Blueprint

theorem build_eq_error_iff {b : Blueprint} :
    b.build = .error .tooManyCategories ↔ UInt64.size ≤ cellCount b.axes := by
  rw [← layOut?_eq_none_iff, build]
  cases layOut? b.axes <;> simp

theorem exists_build {b : Blueprint} (h : cellCount b.axes < UInt64.size) :
    ∃ g, b.build = .ok g := by
  cases hlaid : layOut? b.axes with
  | none => exact absurd (layOut?_eq_none_iff.mp hlaid) (Nat.not_le_of_lt h)
  | some laid => exact ⟨_, by rw [build, hlaid]⟩

/-- The number of cells of a built grid, which is 0 without an axis. -/
theorem total_of_build {b : Blueprint} {g : Grid} (hb : b.build = .ok g) :
    g.total.toNat = if b.axes = [] then 0 else cellCount b.axes := by
  obtain ⟨haxes, ⟨hnil, htotal⟩ | ⟨hne, hlaid⟩⟩ := places_of_build hb
  · rw [htotal, if_pos ((places_eq_nil_iff hb).mp hnil)]
    rfl
  · rw [if_neg ((places_eq_nil_iff hb).not.mp hne), hlaid.cells_eq, ← haxes, Grid.axes]

/-- Freezing fails exactly where the bin counts of all axes multiply to more than a word
holds. Else that product is the number of cells, and each axis weighs as much as the bin
counts of the axes behind it multiply to. -/
theorem build_mixed_radix (b : Blueprint) :
    (b.build = .error .tooManyCategories ↔ UInt64.size ≤ cellCount b.axes) ∧
    (cellCount b.axes < UInt64.size → ∃ g, b.build = .ok g ∧ g.axes = b.axes ∧
      g.total.toNat = (if b.axes = [] then 0 else cellCount b.axes) ∧
      ∀ i p, g.places[i]? = some p → p.weight.toNat = cellCount (b.axes.drop (i + 1))) := by
  refine ⟨build_eq_error_iff, fun hfits => ?_⟩
  obtain ⟨g, hb⟩ := exists_build hfits
  refine ⟨g, hb, axes_of_build hb, total_of_build hb, fun i p hp => ?_⟩
  have hlaid := laidOut_of_build hb (List.ne_nil_of_mem (List.mem_of_getElem? hp))
  rw [← axes_of_build hb]
  exact hlaid.weight_eq hp

/-- The two axes of `overlapping`, of two bins each, so many times. -/
def repeated (times : Nat) : Blueprint := ⟨overlapping.axes.flatMap (List.replicate times)⟩

theorem cellCount_repeated (times : Nat) :
    cellCount (repeated times).axes = Nat.pow 2 times * Nat.pow 2 times := by
  rw [cellCount, repeated, List.map_flatMap]
  simp only [List.map_replicate]
  show (List.replicate times 2 ++ (List.replicate times 2 ++ [])).prod = _
  rw [List.append_nil, List.prod_append, List.prod_replicate]
  rfl

/-- The first number of two-bin axes that is too large, and the last even one that is
not. -/
theorem build_mixed_radix_repeated :
    (repeated 32).build = .error .tooManyCategories ∧
      cellCount (repeated 31).axes < UInt64.size ∧
      ∃ g, (repeated 31).build = .ok g ∧ g.total = 0x4000000000000000 := by
  have hfits : cellCount (repeated 31).axes < UInt64.size := by
    rw [cellCount_repeated]
    decide
  obtain ⟨g, hb, -, htotal, -⟩ := (build_mixed_radix (repeated 31)).2 hfits
  refine ⟨(build_mixed_radix (repeated 32)).1.mpr (Nat.le_of_eq (cellCount_repeated 32).symm),
    hfits, g, hb, ?_⟩
  rw [if_neg (by decide), cellCount_repeated] at htotal
  exact UInt64.toNat_inj.mp htotal

end Blueprint

/-! ## Sums that do not wrap around -/

/-- Adding up the shares of some bins to the word `sum`, no share and no sum wrapped
around, and none came to `total`. -/
structure AddsUp (total : UInt64) (places : List Place) (bins : List Nat) (sum : UInt64) :
    Prop where
  share_eq : ∀ p bin, (p, bin) ∈ places.zip bins → (p.share bin).toNat = bin * p.weight.toNat
  share_lt : ∀ p bin, (p, bin) ∈ places.zip bins → bin * p.weight.toNat < total.toNat
  sum_eq : sum.toNat = cellNumber places bins
  sum_lt : cellNumber places bins < total.toNat

theorem share_le_cellNumber {places : List Place} {bins : List Nat} {p : Place} {bin : Nat}
    (hmem : (p, bin) ∈ places.zip bins) : bin * p.weight.toNat ≤ cellNumber places bins := by
  induction places generalizing bins with
  | nil => cases hmem
  | cons q places ih =>
      cases bins with
      | nil => cases hmem
      | cons first bins =>
          rw [cellNumber]
          rcases List.mem_cons.mp hmem with heq | hrest
          · obtain ⟨rfl, rfl⟩ := Prod.mk.injEq .. |>.mp heq
            exact Nat.le_add_right _ _
          · exact Nat.le_trans (ih hrest) (Nat.le_add_left _ _)

theorem Place.toNat_share {p : Place} {bin : Nat} (h : bin * p.weight.toNat < UInt64.size) :
    (p.share bin).toNat = bin * p.weight.toNat := by
  have hword : p.share bin = UInt64.ofNat (bin * p.weight.toNat) := by
    simp [share, UInt64.ofNat_mul]
  rw [hword, UInt64.toNat_ofNat_of_lt' h]

namespace Grid

/-- The first places of a laid out grid add up, whatever bins they are given. -/
theorem addsUp_of_sumOfShares? {front rest : List Place} {total : UInt64}
    (h : LaidOut (front ++ rest) total) {bins : List Nat} {sum : UInt64}
    (hsum : sumOfShares? 0 front bins = some sum) : AddsUp total front bins sum := by
  obtain ⟨hcell, rfl⟩ := sumOfShares?_eq_some_iff.mp hsum
  have hlt : cellNumber front bins < total.toNat := h.cellNumber_front_lt hcell
  have hshare : ∀ p bin, (p, bin) ∈ front.zip bins → bin * p.weight.toNat < total.toNat :=
    fun p bin hmem => Nat.lt_of_le_of_lt (share_le_cellNumber hmem) hlt
  refine ⟨fun p bin hmem => ?_, hshare, ?_, hlt⟩
  · exact Place.toNat_share (Nat.lt_trans (hshare p bin hmem) total.toNat_lt_size)
  · rw [UInt64.zero_add]
    exact toNat_ofNat_of_lt hlt

theorem sumOfShares?_append {front rest : List Place} {bins bins' : List Nat}
    {sum sum' : UInt64} (h : sumOfShares? sum front bins = some sum') :
    sumOfShares? sum (front ++ rest) (bins ++ bins') = sumOfShares? sum' rest bins' := by
  fun_induction sumOfShares? sum front bins with
  | case1 sum =>
      obtain rfl := Option.some.inj h
      rfl
  | case2 sum p places bin bins hbin ih => simpa [sumOfShares?, hbin] using ih h
  | case3 => cases h
  | case4 => cases h

theorem sumOfBins?_append {values : Observables} {front rest : List Place}
    {sum sum' : UInt64} (h : sumOfBins? values sum front = some sum') :
    sumOfBins? values sum (front ++ rest) = sumOfBins? values sum' rest := by
  fun_induction sumOfBins? values sum front with
  | case1 sum =>
      obtain rfl := Option.some.inj h
      rfl
  | case2 sum p places bin hfind ih => simpa [sumOfBins?, hfind] using ih h
  | case3 => cases h

/-- In a built grid all arithmetic on words is exact. No weight and no bin count is 0, so
that digits can be divided out. Whatever places categorizing or encoding has passed, with
any values or bins, it goes on from a sum that is exact and below the number of all
cells. -/
theorem sums_below_total {b : Blueprint} {g : Grid} (hb : b.build = .ok g) :
    (∀ i p, g.places[i]? = some p →
      p.weight.toNat = cellCount (g.axes.drop (i + 1)) ∧
        1 ≤ p.weight.toNat ∧ p.weight.toNat ≤ UInt64.size - 1 ∧
        p.axis.binCount + 1 = p.axis.edges.size ∧ 1 ≤ p.axis.binCount) ∧
    g.total.toNat = (if b.axes = [] then 0 else cellCount b.axes) ∧
    g.total.toNat ≤ UInt64.size - 1 ∧
    (∀ values front rest sum, g.places = front ++ rest → front ≠ [] →
      sumOfBins? values 0 front = some sum →
        g.categorize? values = sumOfBins? values sum rest ∧
          ∃ bins, values.InCell (front.map (·.axis)) bins ∧ AddsUp g.total front bins sum) ∧
    (∀ front rest bins bins' sum, g.places = front ++ rest → front ≠ [] →
      sumOfShares? 0 front bins = some sum →
        g.encode? (bins ++ bins') = sumOfShares? sum rest bins' ∧
          AddsUp g.total front bins sum) ∧
    ∀ category, ∀ p ∈ g.places,
      p.digit category = category.toNat / p.weight.toNat % p.axis.binCount := by
  have hlaid : ∀ {front rest : List Place}, g.places = front ++ rest → front ≠ [] →
      g.isEmpty = false ∧ LaidOut (front ++ rest) g.total := by
    intro front rest hsplit hne
    have hsome : g.places ≠ [] := by simp [hsplit, hne]
    exact ⟨by simpa [isEmpty] using hsome, hsplit ▸ laidOut_of_build hb hsome⟩
  refine ⟨fun i p hp => ?_, Blueprint.total_of_build hb, Nat.le_pred_of_lt g.total.toNat_lt_size,
    fun values front rest sum hsplit hne hsum => ?_,
    fun front rest bins bins' sum hsplit hne hsum => ?_, fun category p _ => ?_⟩
  · have h := laidOut_of_build hb (List.ne_nil_of_mem (List.mem_of_getElem? hp))
    have hweight : p.weight.toNat = cellCount (g.axes.drop (i + 1)) := h.weight_eq hp
    exact ⟨hweight, hweight ▸ cellCount_pos _, Nat.le_pred_of_lt p.weight.toNat_lt_size,
      Nat.sub_add_cancel (Nat.le_of_succ_le p.axis.two_le_size), p.axis.binCount_pos⟩
  · obtain ⟨hempty, h⟩ := hlaid hsplit hne
    obtain ⟨bins, hcell, hshares⟩ := sumOfBins?_eq_some_iff.mp hsum
    refine ⟨?_, bins, hcell, addsUp_of_sumOfShares? h hshares⟩
    rw [categorize?, hempty, if_neg Bool.false_ne_true, hsplit, sumOfBins?_append hsum]
  · obtain ⟨hempty, h⟩ := hlaid hsplit hne
    refine ⟨?_, addsUp_of_sumOfShares? h hsum⟩
    rw [encode?, hempty, if_neg Bool.false_ne_true, hsplit, sumOfShares?_append hsum]
  · simp [Place.digit]

/-- An event in the last cell of almost as many axes as a word has room for. -/
theorem sums_below_total_repeated :
    ∃ g, (Blueprint.repeated 31).build = .ok g ∧ ∃ bins sum,
      g.categorize? .atOne = some sum ∧ AddsUp g.total g.places bins sum := by
  have hfits : cellCount (Blueprint.repeated 31).axes < UInt64.size := by
    rw [Blueprint.cellCount_repeated]
    decide
  obtain ⟨g, hb⟩ := Blueprint.exists_build hfits
  have hne : g.places ≠ [] := by
    intro hnil
    have haxes := axes_of_build hb
    rw [axes, hnil] at haxes
    cases haxes
  have hfound : ∀ axis ∈ Blueprint.overlapping.axes,
      axis.findBin? (Observables.atOne.get axis.observable) ≠ none := by decide +kernel
  cases hsum : sumOfBins? .atOne 0 g.places with
  | none =>
      obtain ⟨axis, haxis, hnone⟩ := sumOfBins?_eq_none_iff.mp hsum
      have hrepeated : axis ∈ (Blueprint.repeated 31).axes := axes_of_build hb ▸ haxis
      obtain ⟨axis', hmem, hsame⟩ := List.mem_flatMap.mp hrepeated
      obtain rfl := List.eq_of_mem_replicate hsame
      exact absurd hnone (hfound axis hmem)
  | some sum =>
      obtain ⟨hcategory, bins, -, hexact⟩ := (sums_below_total hb).2.2.2.1 .atOne g.places [] sum
        (List.append_nil _).symm hne hsum
      exact ⟨g, hb, bins, sum, hcategory, hexact⟩

end Grid

end EventMixing
