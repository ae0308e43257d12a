import EventMixing.Proofs.Cells

/-!
# The order of the cells

Categories number the cells in lexicographic order, the earliest axis first. The axes
behind an axis together count less than one step of its bin, so at the first axis on
which two cells differ that one step outweighs all that comes after
(`LaidOut.cellNumber_lt_iff_lex`). For words this is `encode?_lt_iff_lex`, which also says
what counting through the categories decodes: every cell of the grid, each after the ones
that precede it.
-/

namespace EventMixing

/-- A step of the leading digit outweighs what stands behind it. -/
theorem mul_add_lt_mul_add_iff {weight digit digit' rest rest' : Nat} (h : rest < weight)
    (h' : rest' < weight) :
    digit * weight + rest < digit' * weight + rest' ↔
      digit < digit' ∨ digit = digit' ∧ rest < rest' := by
  rcases Nat.lt_trichotomy digit digit' with hlt | rfl | hgt
  · have hstep := mul_add_lt_mul hlt h
    exact iff_of_true (by omega) (Or.inl hlt)
  · simp
  · have hstep := mul_add_lt_mul hgt h'
    exact iff_of_false (by omega) (by omega)

/-- Cells are numbered in lexicographic order of their bins. -/
theorem LaidOut.cellNumber_lt_iff_lex {places : List Place} {cells : UInt64}
    (h : LaidOut places cells) {bins bins' : List Nat}
    (hcell : IsCell (places.map (·.axis)) bins) (hcell' : IsCell (places.map (·.axis)) bins') :
    cellNumber places bins < cellNumber places bins' ↔ List.Lex (· < ·) bins bins' := by
  induction h generalizing bins bins' with
  | nil =>
      cases hcell
      cases hcell'
      exact iff_of_false (Nat.lt_irrefl _) nofun
  | @cons axis places below _ hbelow fits ih =>
      cases hcell with
      | @cons _ bin _ bins _ hrest =>
          cases hcell' with
          | @cons _ bin' _ bins' _ hrest' =>
              rw [cellNumber, cellNumber, mul_add_lt_mul_add_iff (hbelow.cellNumber_lt hrest)
                (hbelow.cellNumber_lt hrest'), ih hrest hrest', List.cons_lex_cons_iff]

namespace Grid

variable {b : Blueprint} {g : Grid}

theorem lt_iff_lex_of_encode? (hb : b.build = .ok g) {bins bins' : List Nat} {c c' : UInt64}
    (h : g.encode? bins = some c) (h' : g.encode? bins' = some c') :
    c < c' ↔ List.Lex (· < ·) bins bins' := by
  have hne : g.places ≠ [] := by
    rw [ne_eq, places_eq_nil_iff hb, ← axes_of_build hb]
    exact (exists_encode?_iff.mp ⟨c, h⟩).1
  have hlaid := laidOut_of_build hb hne
  obtain ⟨hcell, hnumber⟩ := (encode?_eq_some_iff hne hlaid).mp h
  obtain ⟨hcell', hnumber'⟩ := (encode?_eq_some_iff hne hlaid).mp h'
  rw [UInt64.lt_iff_toNat_lt, hnumber, hnumber', hlaid.cellNumber_lt_iff_lex hcell hcell']

/-- The cells of all categories, counting up from 0. -/
def cellsInOrder (g : Grid) : List (List Nat) :=
  (List.range g.total.toNat).map (cellBins g.places)

theorem decode?_ofNat {n : Nat} (h : n < g.total.toNat) :
    g.decode? (UInt64.ofNat n) = some (cellBins g.places n) := by
  rw [decode?_eq_some_iff, UInt64.lt_iff_toNat_lt, toNat_ofNat_of_lt h]
  exact ⟨h, rfl⟩

theorem mapM_decode?_range (g : Grid) :
    (List.range g.total.toNat).mapM (fun n => g.decode? (UInt64.ofNat n))
      = some g.cellsInOrder := by
  rw [mapM_eq_some_iff, cellsInOrder, List.forall₂_map_right_iff, List.forall₂_same]
  exact fun n hn => decode?_ofNat (List.mem_range.mp hn)

theorem mem_cellsInOrder (hb : b.build = .ok g) {bins : List Nat} :
    bins ∈ g.cellsInOrder ↔ b.axes ≠ [] ∧ IsCell b.axes bins := by
  rw [← axes_of_build hb, ← exists_encode?_iff, cellsInOrder, List.mem_map]
  simp only [encode?_eq_some_iff_decode? hb, List.mem_range]
  constructor
  · rintro ⟨n, hn, rfl⟩
    exact ⟨_, decode?_ofNat hn⟩
  · rintro ⟨c, hdecode⟩
    obtain ⟨hlt, hbins⟩ := decode?_eq_some_iff.mp hdecode
    exact ⟨c.toNat, UInt64.lt_iff_toNat_lt.mp hlt, hbins⟩

theorem cellsInOrder_ascending (hb : b.build = .ok g) :
    g.cellsInOrder.Pairwise (List.Lex (· < ·)) := by
  rw [cellsInOrder, List.pairwise_map]
  refine List.pairwise_lt_range.imp_of_mem ?_
  intro n n' hn hn' hlt
  rw [List.mem_range] at hn hn'
  have hencode := (encode?_eq_some_iff_decode? hb).mpr (decode?_ofNat hn)
  have hencode' := (encode?_eq_some_iff_decode? hb).mpr (decode?_ofNat hn')
  rw [← lt_iff_lex_of_encode? hb hencode hencode', UInt64.lt_iff_toNat_lt,
    toNat_ofNat_of_lt hn, toNat_ofNat_of_lt hn']
  exact hlt

/-- Of two cells the one with the smaller category precedes the other in the lexicographic
order of their bins, the earliest axis first. Counting through the categories decodes each
of them, in this order, and comes to every cell of the grid. -/
theorem encode?_lt_iff_lex (hb : b.build = .ok g) :
    (∀ bins bins' c c', g.encode? bins = some c → g.encode? bins' = some c' →
      (c < c' ↔ List.Lex (· < ·) bins bins')) ∧
    ∃ cells, (List.range g.total.toNat).mapM (fun n => g.decode? (UInt64.ofNat n)) = some cells ∧
      cells.Pairwise (List.Lex (· < ·)) ∧
      ∀ bins, bins ∈ cells ↔ b.axes ≠ [] ∧ IsCell b.axes bins :=
  ⟨fun _ _ _ _ h h' => lt_iff_lex_of_encode? hb h h', g.cellsInOrder, mapM_decode?_range g,
    cellsInOrder_ascending hb, fun _ => mem_cellsInOrder hb⟩

/-- The last cell with the first bin of the first axis comes before the first cell with its
second bin. -/
theorem encode?_lt_iff_lex_overlapping :
    Blueprint.overlapping.build = .ok overlapping ∧
      overlapping.encode? [0, 1] = some 1 ∧ overlapping.encode? [1, 0] = some 2 ∧
      List.Lex (· < ·) [0, 1] [1, 0] ∧
      (List.range overlapping.total.toNat).mapM (fun n => overlapping.decode? (UInt64.ofNat n))
        = some [[0, 0], [0, 1], [1, 0], [1, 1]] := by
  have hbuild : Blueprint.overlapping.build = .ok overlapping := by decide
  have hfirst : overlapping.encode? [0, 1] = some 1 := by decide
  have hsecond : overlapping.encode? [1, 0] = some 2 := by decide
  exact ⟨hbuild, hfirst, hsecond,
    ((encode?_lt_iff_lex hbuild).1 _ _ _ _ hfirst hsecond).mp (by decide), by decide⟩

end Grid

end EventMixing
