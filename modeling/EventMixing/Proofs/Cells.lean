import Mathlib.Data.List.Forall2
import EventMixing.Blueprint
import EventMixing.Proofs.Bins

/-!
# The numbering of cells

`build` gives each axis a weight: the number of cells that the axes behind it
make. `LaidOut` says just that of a list of places, and everything about the
numbering is an induction on it. Reckoned without bound, `cellNumber` and
`cellBins` are inverse to each other (`cellBins_cellNumber`,
`cellNumber_cellBins`); since a number stays below that of all cells, the 64-bit
words never wrap around and `encode?` and `decode?` are `cellNumber` and
`cellBins`.

Categorizing is finding the bins and then encoding them, for any grid at all
(`categorize?_eq_some_iff`). On a built grid this makes the category of an event
the one number whose decoded bins hold all its values.
-/

namespace EventMixing

/-- One bin of each axis. -/
def IsCell (axes : List Axis) (bins : List Nat) : Prop :=
  List.Forall₂ (fun axis bin => bin < axis.binCount) axes bins

/-- The event's value for each axis lies in the axis's bin. -/
def Observables.InCell (values : Observables) (axes : List Axis) (bins : List Nat) : Prop :=
  List.Forall₂ (fun axis bin => axis.InBin bin (values.get axis.observable)) axes bins

theorem isCell_of_inCell {values : Observables} {axes : List Axis} {bins : List Nat}
    (h : values.InCell axes bins) : IsCell axes bins :=
  h.imp fun _ _ hbin => hbin.lt_binCount

/-! ## Places laid out -/

/-- Each place's weight is the number of cells behind it; the last argument is the
number of cells of all places. -/
inductive LaidOut : List Place → UInt64 → Prop
  | nil : LaidOut [] 1
  | cons {axis : Axis} {places : List Place} {cells total : UInt64}
      (rest : LaidOut places cells) (fits : total.toNat = cells.toNat * axis.binCount) :
      LaidOut (⟨axis, cells⟩ :: places) total

theorem LaidOut.cells_pos {places : List Place} {cells : UInt64} (h : LaidOut places cells) :
    0 < cells.toNat := by
  induction h with
  | nil => decide
  | cons rest fits ih =>
      rw [fits]
      exact Nat.mul_pos ih (Axis.binCount_pos _)

/-- Laying out axes makes places of these axes in their order, or there are too many
cells. -/
theorem layOut?_eq_some_iff {axes : List Axis} {places : List Place} {cells : UInt64} :
    Blueprint.layOut? axes = some (places, cells) ↔
      places.map (·.axis) = axes ∧ LaidOut places cells := by
  induction axes generalizing places cells with
  | nil =>
      simp only [Blueprint.layOut?, Option.some.injEq, Prod.mk.injEq, List.map_eq_nil_iff]
      constructor
      · rintro ⟨rfl, rfl⟩
        exact ⟨rfl, .nil⟩
      · rintro ⟨rfl, h⟩
        cases h
        exact ⟨rfl, rfl⟩
  | cons axis axes ih =>
      constructor
      · intro h
        simp only [Blueprint.layOut?] at h
        split at h
        · cases h
        · rename_i rest below hrest
          obtain ⟨total, htotal, heq⟩ := Option.map_eq_some_iff.mp h
          obtain ⟨rfl, rfl⟩ := Prod.mk.injEq .. |>.mp heq
          obtain ⟨rfl, hlaid⟩ := ih.mp hrest
          exact ⟨rfl, .cons hlaid (Blueprint.checkedMul_eq_some_iff.mp htotal)⟩
      · rintro ⟨hmap, hlaid⟩
        cases hlaid with
        | nil => cases hmap
        | cons rest fits =>
            obtain ⟨rfl, rfl⟩ := List.cons.inj hmap
            simp only [Blueprint.layOut?, ih.mpr ⟨rfl, rest⟩,
              Blueprint.checkedMul_eq_some_iff.mpr fits, Option.map_some]

/-- What `build` freezes: the blueprint's axes, with a number of cells that is 0
without an axis. -/
theorem places_of_build {b : Blueprint} {g : Grid} (hb : b.build = .ok g) :
    g.axes = b.axes ∧
      (g.places = [] ∧ g.total = 0 ∨ g.places ≠ [] ∧ LaidOut g.places g.total) := by
  unfold Blueprint.build at hb
  split at hb
  · cases hb
  · rename_i places cells hlayout
    obtain rfl := Except.ok.inj hb
    obtain ⟨haxes, hlaid⟩ := layOut?_eq_some_iff.mp hlayout
    refine ⟨haxes, ?_⟩
    by_cases hnil : places = []
    · subst hnil
      exact Or.inl ⟨rfl, by simp [Blueprint.isEmpty, ← haxes]⟩
    · have hne : b.axes ≠ [] := by simpa [← haxes] using hnil
      exact Or.inr ⟨hnil, by simpa [Blueprint.isEmpty, hne] using hlaid⟩

theorem axes_of_build {b : Blueprint} {g : Grid} (hb : b.build = .ok g) : g.axes = b.axes :=
  (places_of_build hb).1

theorem places_eq_nil_iff {b : Blueprint} {g : Grid} (hb : b.build = .ok g) :
    g.places = [] ↔ b.axes = [] := by
  rw [← axes_of_build hb, Grid.axes, List.map_eq_nil_iff]

theorem laidOut_of_build {b : Blueprint} {g : Grid} (hb : b.build = .ok g)
    (hne : g.places ≠ []) : LaidOut g.places g.total := by
  rcases (places_of_build hb).2 with ⟨hnil, -⟩ | ⟨-, hlaid⟩
  · exact absurd hnil hne
  · exact hlaid

/-! ## Numbers and bins -/

/-- The number of a cell, with the bins as its digits. -/
def cellNumber : List Place → List Nat → Nat
  | p :: places, bin :: bins => bin * p.weight.toNat + cellNumber places bins
  | _, _ => 0

/-- The bins of the cell of a number, one for each place. -/
def cellBins (places : List Place) (n : Nat) : List Nat :=
  places.map fun p => n / p.weight.toNat % p.axis.binCount

/-- A digit below its base, and a rest below the digit's weight, come to less than the base
does. -/
theorem mul_add_lt_mul {weight digit base rest : Nat} (hdigit : digit < base)
    (hrest : rest < weight) : digit * weight + rest < base * weight :=
  calc digit * weight + rest
      < digit * weight + weight := Nat.add_lt_add_left hrest _
    _ = (digit + 1) * weight := (Nat.succ_mul ..).symm
    _ ≤ base * weight := Nat.mul_le_mul_right _ hdigit

/-- A number below a word has a word of its own. -/
theorem toNat_ofNat_of_lt {n : Nat} {bound : UInt64} (h : n < bound.toNat) :
    (UInt64.ofNat n).toNat = n :=
  UInt64.toNat_ofNat_of_lt' (Nat.lt_trans h bound.toNat_lt_size)

theorem isCell_cellBins (places : List Place) (n : Nat) :
    IsCell (places.map (·.axis)) (cellBins places n) := by
  unfold IsCell cellBins
  rw [List.forall₂_map_left_iff, List.forall₂_map_right_iff, List.forall₂_same]
  exact fun p _ => Nat.mod_lt _ p.axis.binCount_pos

namespace LaidOut

variable {places : List Place} {cells : UInt64}

/-- The digits behind a place count less than one step of its own digit, so that no
digits of the first places come to the number of all cells. -/
theorem cellNumber_front_lt {front rest : List Place} (h : LaidOut (front ++ rest) cells)
    {bins : List Nat} (hcell : IsCell (front.map (·.axis)) bins) :
    cellNumber front bins < cells.toNat := by
  induction front generalizing cells bins with
  | nil => simpa [cellNumber] using h.cells_pos
  | cons p front ih =>
      cases h with
      | @cons axis _ below _ hbelow fits =>
          cases hcell with
          | @cons _ bin _ bins hbin hrest =>
              have hlow : cellNumber front bins < below.toNat := ih hbelow hrest
              rw [fits, Nat.mul_comm, cellNumber]
              exact mul_add_lt_mul hbin hlow

theorem cellNumber_lt (h : LaidOut places cells) {bins : List Nat}
    (hcell : IsCell (places.map (·.axis)) bins) : cellNumber places bins < cells.toNat := by
  rw [← List.append_nil places] at h
  exact h.cellNumber_front_lt hcell

/-- Digits repeat after the number of all cells. -/
theorem cellBins_mod (h : LaidOut places cells) (n : Nat) :
    cellBins places (n % cells.toNat) = cellBins places n := by
  induction h generalizing n with
  | nil => rfl
  | @cons axis places cells total rest fits ih =>
      have htail : cellBins places (n % total.toNat) = cellBins places n := by
        rw [← ih (n % total.toNat), fits, Nat.mod_mul_right_mod, ih]
      have hhead : n % total.toNat / cells.toNat % axis.binCount
          = n / cells.toNat % axis.binCount := by
        rw [fits, Nat.mod_mul_right_div_self, Nat.mod_mod]
      simp only [cellBins, List.map_cons, List.cons.injEq] at htail ⊢
      exact ⟨hhead, htail⟩

theorem cellNumber_cellBins (h : LaidOut places cells) (n : Nat) :
    cellNumber places (cellBins places n) = n % cells.toNat := by
  induction h generalizing n with
  | nil => simp [cellNumber, Nat.mod_one]
  | @cons axis places cells total rest fits ih =>
      have htail : cellNumber places (cellBins places n) = n % cells.toNat := ih n
      simp only [cellBins, List.map_cons, cellNumber] at htail ⊢
      rw [htail, fits, Nat.mod_mul, Nat.mul_comm, Nat.add_comm]

theorem cellBins_cellNumber (h : LaidOut places cells) {bins : List Nat}
    (hcell : IsCell (places.map (·.axis)) bins) : cellBins places (cellNumber places bins) = bins := by
  induction h generalizing bins with
  | nil =>
      cases hcell
      rfl
  | @cons axis places cells total rest fits ih =>
      cases hcell with
      | @cons _ bin _ bins hbin hrest =>
          have hlow : cellNumber places bins < cells.toNat := rest.cellNumber_lt hrest
          have hhead : (bin * cells.toNat + cellNumber places bins) / cells.toNat = bin := by
            rw [Nat.mul_comm, Nat.mul_add_div rest.cells_pos, Nat.div_eq_of_lt hlow, Nat.add_zero]
          have htail : cellBins places (bin * cells.toNat + cellNumber places bins) = bins := by
            rw [← rest.cellBins_mod, Nat.mul_comm, Nat.mul_add_mod, rest.cellBins_mod, ih hrest]
          simp only [cellBins, List.map_cons, cellNumber] at htail ⊢
          rw [hhead, Nat.mod_eq_of_lt hbin, htail]

end LaidOut

/-- Two axes on one variable: from 0 to 2 in bins of width 1, from -1 to 3 in bins of
width 2. -/
def Blueprint.overlapping : Blueprint :=
  ⟨[⟨.vtxZ, #[⟨0⟩, ⟨0x3FF0000000000000⟩, ⟨0x4000000000000000⟩],
      by decide, by decide, fun i hi => Axis.ascending_of_pairwise (by decide) i _ hi⟩,
    ⟨.vtxZ, #[⟨0xBFF0000000000000⟩, ⟨0x3FF0000000000000⟩, ⟨0x4008000000000000⟩],
      by decide, by decide, fun i hi => Axis.ascending_of_pairwise (by decide) i _ hi⟩]⟩

/-- Its four cells. -/
def Grid.overlapping : Grid where
  places := Blueprint.overlapping.axes.zipWith Place.mk [2, 1]
  total := 4
  lastOn := (Vector.replicate Variable.count none).set 2 (some 1)

/-- An event at the last edge but one of both axes. -/
def Observables.atOne : Observables := .ofPairs [(.vtxZ, ⟨0x3FF0000000000000⟩)]

/-! ## Encoding and decoding -/

namespace Grid

/-- Adding up shares of words is adding up numbers and then taking the word. -/
theorem sumOfShares?_eq_some_iff {places : List Place} {bins : List Nat} {sum c : UInt64} :
    sumOfShares? sum places bins = some c ↔
      IsCell (places.map (·.axis)) bins ∧ c = sum + UInt64.ofNat (cellNumber places bins) := by
  fun_induction sumOfShares? sum places bins with
  | case1 sum => simp [IsCell, cellNumber, eq_comm]
  | case2 sum p places bin bins hbin ih =>
      rw [ih]
      simp [IsCell, cellNumber, Place.share, hbin, UInt64.ofNat_add, UInt64.ofNat_mul,
        UInt64.add_assoc]
  | case3 sum p places bin bins hbin => simp [IsCell, hbin]
  | case4 places sum bins hnil hcons =>
      -- one list is longer than the other
      have hnone : ¬ IsCell (places.map (·.axis)) bins := by
        intro hcell
        cases places with
        | nil =>
            cases hcell
            exact hnil rfl rfl
        | cons p places =>
            cases hcell
            exact hcons _ _ _ _ rfl rfl
      simp [hnone]

theorem decode?_eq_some_iff {g : Grid} {c : UInt64} {bins : List Nat} :
    g.decode? c = some bins ↔ c < g.total ∧ cellBins g.places c.toNat = bins := by
  have hbins : g.places.map (·.digit c) = cellBins g.places c.toNat := by
    simp [cellBins, Place.digit]
  rw [decode?, hbins, Option.ite_none_right_eq_some, Option.some.injEq]

theorem encode?_eq_some_iff {g : Grid} (hne : g.places ≠ []) (h : LaidOut g.places g.total)
    {bins : List Nat} {c : UInt64} :
    g.encode? bins = some c ↔ IsCell g.axes bins ∧ c.toNat = cellNumber g.places bins := by
  have hempty : g.isEmpty = false := by simpa [isEmpty] using hne
  rw [encode?, hempty, if_neg Bool.false_ne_true, sumOfShares?_eq_some_iff, UInt64.zero_add]
  refine and_congr_right (fun hcell => ?_)
  constructor
  · rintro rfl
    exact toNat_ofNat_of_lt (h.cellNumber_lt hcell)
  · intro heq
    rw [← heq, UInt64.ofNat_toNat]

/-- On a built grid encoding and decoding undo each other. -/
theorem encode?_eq_some_iff_decode? {b : Blueprint} {g : Grid} (hb : b.build = .ok g)
    {bins : List Nat} {c : UInt64} : g.encode? bins = some c ↔ g.decode? c = some bins := by
  rw [decode?_eq_some_iff]
  rcases (places_of_build hb).2 with ⟨hnil, htotal⟩ | ⟨hne, hlaid⟩
  · simp [encode?, isEmpty, hnil, htotal]
  · rw [encode?_eq_some_iff hne hlaid]
    constructor
    · rintro ⟨hcell, hnumber⟩
      rw [UInt64.lt_iff_toNat_lt, hnumber]
      exact ⟨hlaid.cellNumber_lt hcell, hlaid.cellBins_cellNumber hcell⟩
    · rintro ⟨hlt, rfl⟩
      refine ⟨isCell_cellBins g.places c.toNat, ?_⟩
      rw [hlaid.cellNumber_cellBins, Nat.mod_eq_of_lt (UInt64.lt_iff_toNat_lt.mp hlt)]

theorem exists_decode?_iff {g : Grid} {c : UInt64} :
    (∃ bins, g.decode? c = some bins) ↔ c < g.total := by
  simp only [decode?_eq_some_iff]
  constructor
  · rintro ⟨-, hlt, -⟩
    exact hlt
  · exact fun hlt => ⟨_, hlt, rfl⟩

theorem isCell_of_decode? {g : Grid} {c : UInt64} {bins : List Nat}
    (h : g.decode? c = some bins) : IsCell g.axes bins := by
  obtain ⟨-, rfl⟩ := decode?_eq_some_iff.mp h
  exact isCell_cellBins g.places c.toNat

theorem exists_encode?_iff {g : Grid} {bins : List Nat} :
    (∃ c, g.encode? bins = some c) ↔ g.axes ≠ [] ∧ IsCell g.axes bins := by
  simp only [encode?, isEmpty, axes, List.isEmpty_iff, Option.ite_none_left_eq_some,
    sumOfShares?_eq_some_iff, exists_and_left, exists_eq, and_true, ne_eq, List.map_eq_nil_iff]

theorem total_of_axes_eq_nil {b : Blueprint} {g : Grid} (hb : b.build = .ok g)
    (hnil : g.axes = []) : g.total = 0 := by
  rcases (places_of_build hb).2 with ⟨-, htotal⟩ | ⟨hne, -⟩
  · exact htotal
  · exact absurd (List.map_eq_nil_iff.mp hnil) hne

/-- Encoding and decoding match the categories below the total with the cells of the
grid, one to one; without an axis there are none of either. -/
theorem decode?_inverse_encode? {b : Blueprint} {g : Grid} (hb : b.build = .ok g) :
    (∀ c, ((∃ bins, g.decode? c = some bins) ↔ c < g.total) ∧
      ∀ bins, g.decode? c = some bins → IsCell b.axes bins ∧ g.encode? bins = some c) ∧
    (∀ bins, ((∃ c, g.encode? bins = some c) ↔ b.axes ≠ [] ∧ IsCell b.axes bins) ∧
      ∀ c, g.encode? bins = some c → c < g.total ∧ g.decode? c = some bins) ∧
    (b.axes = [] →
      g.total = 0 ∧ (∀ c, g.decode? c = none) ∧ ∀ bins, g.encode? bins = none) := by
  rw [← axes_of_build hb]
  refine ⟨fun c => ⟨exists_decode?_iff, fun bins hdecode => ?_⟩,
    fun bins => ⟨exists_encode?_iff, fun c hencode => ?_⟩, fun hnil => ?_⟩
  · exact ⟨isCell_of_decode? hdecode, (encode?_eq_some_iff_decode? hb).mpr hdecode⟩
  · have hdecode := (encode?_eq_some_iff_decode? hb).mp hencode
    exact ⟨exists_decode?_iff.mp ⟨bins, hdecode⟩, hdecode⟩
  · have htotal := total_of_axes_eq_nil hb hnil
    refine ⟨htotal, fun c => ?_, fun bins => ?_⟩
    · rw [Option.eq_none_iff_forall_ne_some]
      intro bins hdecode
      have hlt := exists_decode?_iff.mp ⟨bins, hdecode⟩
      rw [htotal] at hlt
      exact UInt64.not_lt_zero hlt
    · rw [Option.eq_none_iff_forall_ne_some]
      intro c hencode
      exact (exists_encode?_iff.mp ⟨c, hencode⟩).1 hnil

theorem decode?_inverse_encode?_overlapping :
    Blueprint.overlapping.build = .ok overlapping ∧
      overlapping.decode? 2 = some [1, 0] ∧ overlapping.encode? [1, 0] = some 2 := by
  have hbuild : Blueprint.overlapping.build = .ok overlapping := by decide
  have hdecode : overlapping.decode? 2 = some [1, 0] := by decide
  exact ⟨hbuild, hdecode, (((decode?_inverse_encode? hbuild).1 2).2 [1, 0] hdecode).2⟩

/-! ## From values to a category -/

theorem mapM_eq_some_iff {α β : Type} {f : α → Option β} {xs : List α} {ys : List β} :
    xs.mapM f = some ys ↔ List.Forall₂ (fun x y => f x = some y) xs ys := by
  induction xs generalizing ys with
  | nil => simp [eq_comm]
  | cons x xs ih =>
      rw [List.mapM_cons, List.forall₂_cons_left_iff]
      simp only [Option.bind_eq_bind, Option.bind_eq_some_iff, Option.pure_def,
        Option.some.injEq, ih]
      constructor
      · rintro ⟨y, hy, rest, hrest, rfl⟩
        exact ⟨y, rest, hy, hrest, rfl⟩
      · rintro ⟨y, rest, hy, hrest, rfl⟩
        exact ⟨y, hy, rest, hrest, rfl⟩

theorem binIndices?_eq_some_iff {g : Grid} {values : Observables} {bins : List Nat} :
    g.binIndices? values = some bins ↔ g.axes ≠ [] ∧ values.InCell g.axes bins := by
  have hempty : g.isEmpty = true ↔ g.axes = [] := by simp [isEmpty, axes]
  simp only [binIndices?, hempty, mapM_eq_some_iff, Axis.findBin?_eq_some_iff,
    Option.ite_none_left_eq_some, Observables.InCell]

/-- Summing up on the way, while the bins are found, is finding them all first. -/
theorem sumOfBins?_eq_some_iff {values : Observables} {places : List Place} {sum c : UInt64} :
    sumOfBins? values sum places = some c ↔
      ∃ bins, values.InCell (places.map (·.axis)) bins ∧ sumOfShares? sum places bins = some c := by
  fun_induction sumOfBins? values sum places with
  | case1 sum =>
      constructor
      · rintro ⟨⟩
        exact ⟨[], .nil, rfl⟩
      · rintro ⟨bins, hcell, hsum⟩
        cases hcell
        exact hsum
  | case2 sum p places bin hfind ih =>
      have hbin : p.axis.InBin bin (values.get p.axis.observable) :=
        Axis.findBin?_eq_some_iff.mp hfind
      rw [ih]
      constructor
      · rintro ⟨bins, hcell, hsum⟩
        refine ⟨bin :: bins, .cons hbin hcell, ?_⟩
        rw [sumOfShares?, if_pos hbin.lt_binCount, hsum]
      · rintro ⟨bins, hcell, hsum⟩
        cases hcell with
        | @cons _ bin' _ bins hbin' hrest =>
            -- the search finds one bin only
            have heq := hfind.symm.trans (Axis.findBin?_eq_some_iff.mpr hbin')
            obtain rfl := Option.some.inj heq
            rw [sumOfShares?, if_pos hbin.lt_binCount] at hsum
            exact ⟨bins, hrest, hsum⟩
  | case3 sum p places hfind =>
      constructor
      · rintro ⟨⟩
      · rintro ⟨bins, hcell, -⟩
        cases hcell with
        | cons hbin _ =>
            rw [Axis.findBin?_eq_some_iff.mpr hbin] at hfind
            cases hfind

/-- Categorizing is finding the bins and encoding them. -/
theorem categorize?_eq_some_iff {g : Grid} {values : Observables} {c : UInt64} :
    g.categorize? values = some c ↔
      ∃ bins, g.binIndices? values = some bins ∧ g.encode? bins = some c := by
  simp only [binIndices?_eq_some_iff, categorize?, encode?, isEmpty, axes, List.isEmpty_iff,
    Option.ite_none_left_eq_some, sumOfBins?_eq_some_iff, ne_eq, List.map_eq_nil_iff]
  constructor
  · rintro ⟨hne, bins, hcell, hsum⟩
    exact ⟨bins, ⟨hne, hcell⟩, hne, hsum⟩
  · rintro ⟨bins, ⟨hne, hcell⟩, -, hsum⟩
    exact ⟨hne, bins, hcell, hsum⟩

/-- On a built grid, to share a category is to share a cell. -/
theorem categorize?_eq_some_iff_binIndices? {b : Blueprint} {g : Grid} (hb : b.build = .ok g)
    {bins : List Nat} {c : UInt64} (hencode : g.encode? bins = some c) {values : Observables} :
    g.categorize? values = some c ↔ g.binIndices? values = some bins := by
  rw [categorize?_eq_some_iff]
  constructor
  · rintro ⟨bins', hindices, hencode'⟩
    -- both cells are the decoded category
    have hdecode := (encode?_eq_some_iff_decode? hb).mp hencode
    have hdecode' := (encode?_eq_some_iff_decode? hb).mp hencode'
    rw [hindices, ← hdecode', hdecode]
  · exact fun hindices => ⟨bins, hindices, hencode⟩

/-- Going once over the axes, with a sum that grows on the way, comes to the same as
finding all bins and encoding them, which no check on their number or size ever stops; and
decoding the category gives the bins back. -/
theorem categorize?_eq_bind_encode? {b : Blueprint} {g : Grid} (hb : b.build = .ok g)
    (values : Observables) :
    g.categorize? values = (g.binIndices? values).bind g.encode? ∧
    (g.categorize? values = none ↔ g.binIndices? values = none) ∧
    ∀ bins, g.binIndices? values = some bins →
      bins.length = b.axes.length ∧ IsCell b.axes bins ∧
        ∃ c, g.encode? bins = some c ∧ g.categorize? values = some c ∧
          g.decode? c = some bins := by
  have hbind : g.categorize? values = (g.binIndices? values).bind g.encode? := by
    refine Option.ext fun c => ?_
    rw [categorize?_eq_some_iff, Option.bind_eq_some_iff]
  have hfound : ∀ bins, g.binIndices? values = some bins →
      IsCell g.axes bins ∧ ∃ c, g.encode? bins = some c := by
    intro bins hbins
    obtain ⟨hne, hcell⟩ := binIndices?_eq_some_iff.mp hbins
    exact ⟨isCell_of_inCell hcell, exists_encode?_iff.mpr ⟨hne, isCell_of_inCell hcell⟩⟩
  refine ⟨hbind, ?_, fun bins hbins => ?_⟩
  · cases hbins : g.binIndices? values with
    | none => simp [hbind, hbins]
    | some bins =>
        obtain ⟨-, c, hc⟩ := hfound bins hbins
        simp [hbind, hbins, hc]
  · obtain ⟨hcell, c, hc⟩ := hfound bins hbins
    rw [axes_of_build hb] at hcell
    refine ⟨hcell.length_eq.symm, hcell, c, hc, ?_, (encode?_eq_some_iff_decode? hb).mp hc⟩
    rw [hbind, hbins, Option.bind_some, hc]

/-- An event in the last of four cells, and one that misses both axes. -/
theorem categorize?_eq_bind_encode?_overlapping :
    Blueprint.overlapping.build = .ok overlapping ∧
      overlapping.binIndices? .atOne = some [1, 1] ∧ overlapping.encode? [1, 1] = some 3 ∧
      overlapping.categorize? .atOne = some 3 ∧ overlapping.decode? 3 = some [1, 1] ∧
      overlapping.binIndices? .unset = none ∧ overlapping.categorize? .unset = none := by
  have hbuild : Blueprint.overlapping.build = .ok overlapping := by decide
  have hfound : overlapping.binIndices? .atOne = some [1, 1] := by decide +kernel
  have hmissed : overlapping.binIndices? .unset = none := by decide +kernel
  obtain ⟨-, -, c, hencode, hcategory, hdecode⟩ :=
    (categorize?_eq_bind_encode? hbuild .atOne).2.2 [1, 1] hfound
  obtain rfl : 3 = c := Option.some.inj (by rw [← hencode]; decide)
  exact ⟨hbuild, hfound, hencode, hcategory, hdecode, hmissed,
    (categorize?_eq_bind_encode? hbuild .unset).2.1.mpr hmissed⟩

theorem lt_total_of_categorize? {b : Blueprint} {g : Grid} (hb : b.build = .ok g)
    {values : Observables} {c : UInt64} (h : g.categorize? values = some c) : c < g.total := by
  obtain ⟨bins, -, hencode⟩ := categorize?_eq_some_iff.mp h
  exact exists_decode?_iff.mp ⟨bins, (encode?_eq_some_iff_decode? hb).mp hencode⟩

theorem sumOfBins?_eq_none_iff {values : Observables} {places : List Place} {sum : UInt64} :
    sumOfBins? values sum places = none ↔
      ∃ axis ∈ places.map (·.axis), axis.findBin? (values.get axis.observable) = none := by
  fun_induction sumOfBins? values sum places with
  | case1 sum => simp
  | case2 sum p places bin hfind ih => simpa [hfind] using ih
  | case3 sum p places hfind => simp [hfind]

/-- An event is rejected exactly where there is no axis or it misses one. -/
theorem categorize?_eq_none_iff {g : Grid} {values : Observables} :
    g.categorize? values = none ↔
      g.axes = [] ∨ ∃ axis ∈ g.axes, axis.findBin? (values.get axis.observable) = none := by
  simp only [categorize?, isEmpty, axes, List.isEmpty_iff, sumOfBins?_eq_none_iff,
    ite_eq_left_iff, List.map_eq_nil_iff]
  exact Decidable.imp_iff_not_or.trans (by rw [Decidable.not_not])

/-- The category of an event is the one whose decoded bins hold all its values; none
is found exactly without an axis, for a NaN and outside the edges of an axis. -/
theorem categorize?_iff_inCell_decode? {b : Blueprint} {g : Grid} (hb : b.build = .ok g)
    (values : Observables) :
    (∀ c, g.categorize? values = some c ↔
      c < g.total ∧ ∃ bins, g.decode? c = some bins ∧ values.InCell b.axes bins) ∧
    (g.categorize? values = none ↔ b.axes = [] ∨ ∃ axis ∈ b.axes,
      (values.get axis.observable).isNaN = true ∨
        values.get axis.observable < axis.lowestEdge ∨
        axis.highestEdge ≤ values.get axis.observable) := by
  rw [← axes_of_build hb]
  refine ⟨fun c => ?_, ?_⟩
  · simp only [categorize?_eq_some_iff, binIndices?_eq_some_iff, encode?_eq_some_iff_decode? hb]
    constructor
    · rintro ⟨bins, ⟨-, hcell⟩, hdecode⟩
      exact ⟨exists_decode?_iff.mp ⟨bins, hdecode⟩, bins, hdecode, hcell⟩
    · rintro ⟨-, bins, hdecode, hcell⟩
      -- a decoded category is an encoded one, so there is an axis
      have hencode := (encode?_eq_some_iff_decode? hb).mpr hdecode
      exact ⟨bins, ⟨(exists_encode?_iff.mp ⟨c, hencode⟩).1, hcell⟩, hdecode⟩
  · simp only [categorize?_eq_none_iff, Axis.findBin?_eq_none_iff]

theorem categorize?_iff_inCell_decode?_overlapping :
    Blueprint.overlapping.build = .ok overlapping ∧
      overlapping.categorize? .atOne = some 3 := by
  have hbuild : Blueprint.overlapping.build = .ok overlapping := by decide
  have hcell : Observables.atOne.InCell Blueprint.overlapping.axes [1, 1] :=
    .cons ⟨_, _, rfl, by decide, by decide⟩ (.cons ⟨_, _, rfl, by decide, by decide⟩ .nil)
  exact ⟨hbuild, ((categorize?_iff_inCell_decode? hbuild .atOne).1 3).mpr
    ⟨by decide, [1, 1], by decide, hcell⟩⟩

end Grid

end EventMixing
