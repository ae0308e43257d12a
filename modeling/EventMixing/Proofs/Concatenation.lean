import EventMixing.Proofs.Weights

/-!
# Grids of concatenated axes

A grid whose axes are those of two grids, one after the other, has a cell for each
cell of the first and each of the second. Reckoned from the bin counts alone, the
number of a cell is its `cellRank`, and with more axes behind it that rank counts in
steps of their number of cells (`cellRank_append`). So a category of the whole is one
of the first grid and one of the second, written in the base of the second one's
total: `build_append`.
-/

namespace EventMixing

/-! ## Cells by their bin counts -/

theorem cellCount_append (front back : List Axis) :
    cellCount (front ++ back) = cellCount front * cellCount back := by
  rw [cellCount, List.map_append, List.prod_append, cellCount, cellCount]

/-- The number of a cell, reckoned from the bin counts of its axes. -/
def cellRank : List Axis → List Nat → Nat
  | _ :: axes, bin :: bins => bin * cellCount axes + cellRank axes bins
  | _, _ => 0

theorem LaidOut.cellNumber_eq_cellRank {places : List Place} {cells : UInt64}
    (h : LaidOut places cells) (bins : List Nat) :
    cellNumber places bins = cellRank (places.map (·.axis)) bins := by
  induction h generalizing bins with
  | nil => cases bins <;> rfl
  | cons rest fits ih =>
      cases bins with
      | nil => rfl
      | cons bin bins => rw [cellNumber, ih, rest.cells_eq, List.map_cons, cellRank]

theorem cellRank_append {front back : List Axis} {bins : List Nat} (h : IsCell front bins)
    (bins' : List Nat) :
    cellRank (front ++ back) (bins ++ bins') =
      cellRank front bins * cellCount back + cellRank back bins' := by
  induction h with
  | nil => simp [cellRank]
  | cons hbin hrest ih =>
      rw [List.cons_append, List.cons_append, cellRank, cellRank, ih, cellCount_append,
        Nat.add_mul, Nat.mul_assoc, Nat.add_assoc]

/-- What stands to two lists in a row falls into what stands to either. -/
theorem forall₂_append_left_iff {α β : Type} {R : α → β → Prop} {xs ys : List α} {zs : List β} :
    List.Forall₂ R (xs ++ ys) zs ↔
      ∃ us vs, List.Forall₂ R xs us ∧ List.Forall₂ R ys vs ∧ us ++ vs = zs := by
  constructor
  · intro h
    have hus := List.forall₂_take xs.length h
    have hvs := List.forall₂_drop xs.length h
    rw [List.take_left] at hus
    rw [List.drop_left] at hvs
    exact ⟨_, _, hus, hvs, List.take_append_drop ..⟩
  · rintro ⟨us, vs, hus, hvs, rfl⟩
    exact List.rel_append hus hvs

/-! ## Categories by their cells -/

namespace Grid

variable {b : Blueprint} {g : Grid}

theorem encode?_eq_some_iff_cellRank (hb : b.build = .ok g) {bins : List Nat} {c : UInt64} :
    g.encode? bins = some c ↔
      b.axes ≠ [] ∧ IsCell b.axes bins ∧ c.toNat = cellRank b.axes bins := by
  by_cases hne : g.places = []
  · have hnil : b.axes = [] := (places_eq_nil_iff hb).mp hne
    simp [encode?, isEmpty, hne, hnil]
  · have haxes : b.axes ≠ [] := (places_eq_nil_iff hb).not.mp hne
    have hlaid := laidOut_of_build hb hne
    rw [encode?_eq_some_iff hne hlaid, hlaid.cellNumber_eq_cellRank, ← axes,
      axes_of_build hb, and_iff_right haxes]

theorem exists_encode?_of_isCell (hb : b.build = .ok g) (hne : b.axes ≠ []) {bins : List Nat}
    (h : IsCell b.axes bins) : ∃ c, g.encode? bins = some c := by
  rw [← axes_of_build hb] at hne h
  exact exists_encode?_iff.mpr ⟨hne, h⟩

theorem lt_total_of_encode? (hb : b.build = .ok g) {bins : List Nat} {c : UInt64}
    (h : g.encode? bins = some c) : c < g.total :=
  exists_decode?_iff.mp ⟨bins, (encode?_eq_some_iff_decode? hb).mp h⟩

end Grid

/-! ## One grid behind another -/

namespace Blueprint

/-- Where the grid of all axes fits, so does that of the first and that of the others,
and their totals multiply. -/
theorem exists_build_of_append {a b ab : Blueprint} (haxes : ab.axes = a.axes ++ b.axes)
    (ha : a.axes ≠ []) (hb : b.axes ≠ []) {g : Grid} (hg : ab.build = .ok g) :
    ∃ front back, a.build = .ok front ∧ b.build = .ok back ∧
      g.total.toNat = front.total.toNat * back.total.toNat := by
  have htotal := total_of_build hg
  rw [haxes, if_neg (by simp [ha]), cellCount_append] at htotal
  have hfits : cellCount a.axes * cellCount b.axes < UInt64.size :=
    htotal ▸ g.total.toNat_lt_size
  obtain ⟨front, hfront⟩ := exists_build
    (Nat.lt_of_le_of_lt (Nat.le_mul_of_pos_right _ (cellCount_pos b.axes)) hfits)
  obtain ⟨back, hback⟩ := exists_build
    (Nat.lt_of_le_of_lt (Nat.le_mul_of_pos_left _ (cellCount_pos a.axes)) hfits)
  refine ⟨front, back, hfront, hback, ?_⟩
  rw [htotal, total_of_build hfront, if_neg ha, total_of_build hback, if_neg hb]

end Blueprint

namespace Grid

variable {a b ab : Blueprint} {front back g : Grid}

/-- A category of the second grid behind one of the first is no larger than a word. -/
theorem toNat_mul_add (htotal : g.total.toNat = front.total.toNat * back.total.toNat)
    {c d : UInt64} (hc : c < front.total) (hd : d < back.total) :
    (c * back.total + d).toNat = c.toNat * back.total.toNat + d.toNat := by
  rw [UInt64.lt_iff_toNat_lt] at hc hd
  have hlt : c.toNat * back.total.toNat + d.toNat < g.total.toNat := by
    rw [htotal]
    exact mul_add_lt_mul hc hd
  have hword : c * back.total + d
      = UInt64.ofNat (c.toNat * back.total.toNat + d.toNat) := by
    simp [UInt64.ofNat_add, UInt64.ofNat_mul]
  rw [hword, toNat_ofNat_of_lt hlt]

/-- The cell of two cells, one behind the other, is numbered by their two numbers. -/
theorem encode?_append (haxes : ab.axes = a.axes ++ b.axes) (hfront : a.build = .ok front)
    (hback : b.build = .ok back) (hg : ab.build = .ok g)
    (htotal : g.total.toNat = front.total.toNat * back.total.toNat)
    {bins bins' : List Nat} {c d : UInt64} (hc : front.encode? bins = some c)
    (hd : back.encode? bins' = some d) :
    g.encode? (bins ++ bins') = some (c * back.total + d) := by
  have hclt : c < front.total := lt_total_of_encode? hfront hc
  have hdlt : d < back.total := lt_total_of_encode? hback hd
  obtain ⟨hane, hcell, hcrank⟩ := (encode?_eq_some_iff_cellRank hfront).mp hc
  obtain ⟨hbne, hcell', hdrank⟩ := (encode?_eq_some_iff_cellRank hback).mp hd
  rw [encode?_eq_some_iff_cellRank hg, haxes]
  refine ⟨by simp [hane], List.rel_append hcell hcell', ?_⟩
  rw [toNat_mul_add htotal hclt hdlt, cellRank_append hcell, hcrank, hdrank,
    Blueprint.total_of_build hback, if_neg hbne]

theorem categorize?_append (haxes : ab.axes = a.axes ++ b.axes) (ha : a.axes ≠ [])
    (hb : b.axes ≠ []) (hfront : a.build = .ok front) (hback : b.build = .ok back)
    (hg : ab.build = .ok g) (htotal : g.total.toNat = front.total.toNat * back.total.toNat)
    (values : Observables) :
    g.categorize? values = (front.categorize? values).bind fun c =>
      (back.categorize? values).map fun d => c * back.total + d := by
  refine Option.ext fun e => ?_
  simp only [Option.bind_eq_some_iff, Option.map_eq_some_iff, categorize?_eq_some_iff,
    binIndices?_eq_some_iff, axes_of_build hg, axes_of_build hfront, axes_of_build hback, haxes]
  constructor
  · rintro ⟨_, ⟨-, hcell⟩, he⟩
    obtain ⟨bins, bins', hbins, hbins', rfl⟩ := forall₂_append_left_iff.mp hcell
    obtain ⟨c, hc⟩ := exists_encode?_of_isCell hfront ha (isCell_of_inCell hbins)
    obtain ⟨d, hd⟩ := exists_encode?_of_isCell hback hb (isCell_of_inCell hbins')
    rw [encode?_append haxes hfront hback hg htotal hc hd] at he
    exact ⟨c, ⟨bins, ⟨ha, hbins⟩, hc⟩, d, ⟨bins', ⟨hb, hbins'⟩, hd⟩, Option.some.inj he⟩
  · rintro ⟨c, ⟨bins, ⟨-, hbins⟩, hc⟩, d, ⟨bins', ⟨-, hbins'⟩, hd⟩, rfl⟩
    exact ⟨bins ++ bins', ⟨by simp [ha], List.rel_append hbins hbins'⟩,
      encode?_append haxes hfront hback hg htotal hc hd⟩

/-- The cell of a category is that of its quotient by the second grid's total, and behind it
that of the remainder. -/
theorem decode?_append (haxes : ab.axes = a.axes ++ b.axes) (hfront : a.build = .ok front)
    (hback : b.build = .ok back) (hg : ab.build = .ok g)
    (htotal : g.total.toNat = front.total.toNat * back.total.toNat) {c : UInt64}
    (hc : c < g.total) :
    ∃ bins bins', front.decode? (c / back.total) = some bins ∧
      back.decode? (c % back.total) = some bins' ∧ g.decode? c = some (bins ++ bins') := by
  rw [UInt64.lt_iff_toNat_lt, htotal] at hc
  have hpos : 0 < back.total.toNat := Nat.pos_of_mul_pos_left (Nat.zero_lt_of_lt hc)
  have hquot : c / back.total < front.total := by
    rw [UInt64.lt_iff_toNat_lt, UInt64.toNat_div]
    exact Nat.div_lt_of_lt_mul (Nat.mul_comm .. ▸ hc)
  have hrem : c % back.total < back.total := by
    rw [UInt64.lt_iff_toNat_lt, UInt64.toNat_mod]
    exact Nat.mod_lt _ hpos
  have hsplit : c / back.total * back.total + c % back.total = c := by
    rw [← UInt64.toNat_inj, toNat_mul_add htotal hquot hrem, UInt64.toNat_div, UInt64.toNat_mod,
      Nat.div_add_mod']
  obtain ⟨bins, hbins⟩ := exists_decode?_iff.mpr hquot
  obtain ⟨bins', hbins'⟩ := exists_decode?_iff.mpr hrem
  have hencode := encode?_append haxes hfront hback hg htotal
    ((encode?_eq_some_iff_decode? hfront).mpr hbins)
    ((encode?_eq_some_iff_decode? hback).mpr hbins')
  rw [hsplit] at hencode
  exact ⟨bins, bins', hbins, hbins', (encode?_eq_some_iff_decode? hg).mp hencode⟩

end Grid

namespace Blueprint

/-- Where the axes of two blueprints in a row make a grid, both make one of their own. The
totals multiply; an event's category is the first grid's times the second one's total, plus
the second grid's, none where either is none; and a category is taken apart by dividing by
the second total. One more axis of `n` bins so turns a category into one of the `n` from its
`n`-fold on. -/
theorem build_append {a b ab : Blueprint} (haxes : ab.axes = a.axes ++ b.axes)
    (ha : a.axes ≠ []) (hb : b.axes ≠ []) {g : Grid} (hg : ab.build = .ok g) :
    ∃ front back, a.build = .ok front ∧ b.build = .ok back ∧
      g.total.toNat = front.total.toNat * back.total.toNat ∧
      (∀ values, g.categorize? values = (front.categorize? values).bind fun c =>
        (back.categorize? values).map fun d => c * back.total + d) ∧
      (∀ c d, c < front.total → d < back.total →
        (c * back.total + d).toNat = c.toNat * back.total.toNat + d.toNat) ∧
      (∀ c, c < g.total → ∃ bins bins', front.decode? (c / back.total) = some bins ∧
        back.decode? (c % back.total) = some bins' ∧ g.decode? c = some (bins ++ bins')) ∧
      ∀ axis, b.axes = [axis] → ∀ values e, g.categorize? values = some e →
        ∃ c, front.categorize? values = some c ∧
          c.toNat * axis.binCount ≤ e.toNat ∧
            e.toNat ≤ c.toNat * axis.binCount + axis.binCount - 1 := by
  obtain ⟨front, back, hfront, hback, htotal⟩ := exists_build_of_append haxes ha hb hg
  have hcategorize := Grid.categorize?_append haxes ha hb hfront hback hg htotal
  have hexact : ∀ c d, c < front.total → d < back.total →
      (c * back.total + d).toNat = c.toNat * back.total.toNat + d.toNat :=
    fun c d hc hd => Grid.toNat_mul_add htotal hc hd
  refine ⟨front, back, hfront, hback, htotal, hcategorize, hexact,
    fun c hc => Grid.decode?_append haxes hfront hback hg htotal hc, ?_⟩
  intro axis haxis values e he
  rw [hcategorize, Option.bind_eq_some_iff] at he
  obtain ⟨c, hc, he⟩ := he
  obtain ⟨d, hd, rfl⟩ := Option.map_eq_some_iff.mp he
  have hdlt : d < back.total := Grid.lt_total_of_categorize? hback hd
  have hcount : back.total.toNat = axis.binCount := by
    rw [total_of_build hback, if_neg hb, haxis, cellCount_cons, cellCount_nil, Nat.one_mul]
  rw [hexact c d (Grid.lt_total_of_categorize? hfront hc) hdlt, hcount]
  rw [UInt64.lt_iff_toNat_lt, hcount] at hdlt
  exact ⟨c, hc, by omega, by omega⟩

/-- One axis of three bins, the last as wide as the others together. -/
def threefold : Blueprint :=
  ⟨[⟨.psi2, #[⟨0⟩, ⟨0x3FF0000000000000⟩, ⟨0x4000000000000000⟩, ⟨0x4010000000000000⟩],
      by decide, by decide, fun i hi => Axis.ascending_of_pairwise (by decide) i _ hi⟩]⟩

/-- An event at 1 on every axis of `overlapping` and `threefold`. -/
def eventAtOnes : Observables :=
  .ofPairs [(.vtxZ, ⟨0x3FF0000000000000⟩), (.psi2, ⟨0x3FF0000000000000⟩)]

/-- An event in the last of four cells and the middle one of three bins behind them. -/
theorem build_append_overlapping :
    overlapping.axes ≠ [] ∧ threefold.axes ≠ [] ∧
      ∃ g, (Blueprint.mk (overlapping.axes ++ threefold.axes)).build = .ok g ∧
        g.total.toNat = 12 ∧ g.categorize? eventAtOnes = some 10 := by
  have hne : overlapping.axes ≠ [] := by decide
  have hne' : threefold.axes ≠ [] := by decide
  obtain ⟨g, hg⟩ : ∃ g, (Blueprint.mk (overlapping.axes ++ threefold.axes)).build = .ok g :=
    exists_build (by decide)
  obtain ⟨front, back, hfront, hback, htotal, hcategorize, -⟩ :=
    build_append (a := overlapping) (b := threefold) rfl hne hne' hg
  obtain rfl : Grid.overlapping = front := Except.ok.inj (by rw [← hfront]; decide)
  obtain ⟨three, hthree, hcount, hbin⟩ : ∃ three, threefold.build = .ok three ∧
      three.total = 3 ∧ three.categorize? eventAtOnes = some 1 :=
    ⟨_, rfl, by decide, by decide +kernel⟩
  obtain rfl := Except.ok.inj (hthree.symm.trans hback)
  have hcell : Grid.overlapping.categorize? eventAtOnes = some 3 := by decide +kernel
  refine ⟨hne, hne', g, hg, by rw [htotal, hcount]; rfl, ?_⟩
  rw [hcategorize, hcell, hbin, hcount]
  rfl

end Blueprint

end EventMixing
