import Mathlib.Data.Set.Function
import EventMixing.Proofs.Weights

/-!
# The order of the axes

Axes registered in another order make another grid with the same cells under
other numbers. A permutation of the axes carries over to their bins, position
by position, as two axes may be equal: `exists_rearranges` finds the
rearrangement by induction on the permutation. Decoding, rearranging and
encoding is then `renumber`, which its counterpart for the way back undoes, and
an event keeps its cell under the new number (`categorize?_renumber_iff`).
-/

namespace EventMixing

/-! ## Rearranged bins -/

/-- The entries behind the first one rearranged. -/
def behindFirst {α : Type} (e : List α ≃ List α) : List α ≃ List α where
  toFun
    | [] => []
    | x :: xs => x :: e xs
  invFun
    | [] => []
    | x :: xs => x :: e.symm xs
  left_inv xs := by cases xs <;> simp
  right_inv xs := by cases xs <;> simp

/-- The first two entries exchanged, where there are two. -/
def exchangeFirst {α : Type} : List α → List α
  | x :: y :: rest => y :: x :: rest
  | xs => xs

theorem exchangeFirst_involutive {α : Type} :
    Function.Involutive (exchangeFirst : List α → List α) := by
  intro xs
  match xs with
  | [] => rfl
  | [_] => rfl
  | _ :: _ :: _ => rfl

/-- Bins rearranged by `e` stand to the axes `axes'` as they stood to `axes`. -/
structure Rearranges (e : List Nat ≃ List Nat) (axes axes' : List Axis) : Prop where
  nil_iff : axes = [] ↔ axes' = []
  forall₂_iff : ∀ (R : Axis → Nat → Prop) bins,
    List.Forall₂ R axes bins ↔ List.Forall₂ R axes' (e bins)

theorem Rearranges.symm {e : List Nat ≃ List Nat} {axes axes' : List Axis}
    (h : Rearranges e axes axes') : Rearranges e.symm axes' axes where
  nil_iff := h.nil_iff.symm
  forall₂_iff R bins := by rw [h.forall₂_iff, e.apply_symm_apply]

theorem exists_rearranges {axes axes' : List Axis} (h : axes.Perm axes') :
    ∃ e, Rearranges e axes axes' := by
  induction h with
  | nil => exact ⟨Equiv.refl _, Iff.rfl, fun _ _ => Iff.rfl⟩
  | cons axis _ ih =>
      obtain ⟨e, -, he⟩ := ih
      refine ⟨behindFirst e, by simp, fun R bins => ?_⟩
      cases bins with
      | nil => simp [behindFirst]
      | cons bin bins => simp [behindFirst, he]
  | swap axis axis' axes =>
      refine ⟨exchangeFirst_involutive.toPerm, by simp, fun R bins => ?_⟩
      rw [Function.Involutive.coe_toPerm]
      match bins with
      | [] => simp [exchangeFirst]
      | [_] => simp [exchangeFirst]
      | _ :: _ :: _ => simp [exchangeFirst, and_left_comm]
  | trans _ _ ih ih' =>
      obtain ⟨e, hnil, he⟩ := ih
      obtain ⟨e', hnil', he'⟩ := ih'
      exact ⟨e.trans e', hnil.trans hnil', fun R bins => (he R bins).trans (he' R (e bins))⟩

/-! ## Renumbered categories -/

namespace Grid

/-- The number that `g'` gives to the rearranged cell of a category. -/
def renumber (g g' : Grid) (e : List Nat ≃ List Nat) (category : UInt64) : UInt64 :=
  ((g.decode? category).bind fun bins => g'.encode? (e bins)).getD 0

section Renumber

variable {b b' : Blueprint} {g g' : Grid} {e : List Nat ≃ List Nat}

theorem decode?_renumber (hb : b.build = .ok g) (hb' : b'.build = .ok g')
    (he : Rearranges e b.axes b'.axes) {c : UInt64} {bins : List Nat}
    (hdecode : g.decode? c = some bins) : g'.decode? (g.renumber g' e c) = some (e bins) := by
  have hencode := (encode?_eq_some_iff_decode? hb).mpr hdecode
  obtain ⟨hne, hcell⟩ := exists_encode?_iff.mp ⟨c, hencode⟩
  rw [axes_of_build hb] at hne hcell
  -- the rearranged bins are a cell of the other grid
  obtain ⟨c', hencode'⟩ : ∃ c', g'.encode? (e bins) = some c' := by
    rw [exists_encode?_iff, axes_of_build hb']
    exact ⟨fun hnil => hne (he.nil_iff.mpr hnil), (he.forall₂_iff _ bins).mp hcell⟩
  have hnumber : g.renumber g' e c = c' := by simp [renumber, hdecode, hencode']
  rw [hnumber]
  exact (encode?_eq_some_iff_decode? hb').mp hencode'

theorem renumber_lt (hb : b.build = .ok g) (hb' : b'.build = .ok g')
    (he : Rearranges e b.axes b'.axes) {c : UInt64} (hc : c < g.total) :
    g.renumber g' e c < g'.total := by
  obtain ⟨bins, hdecode⟩ := exists_decode?_iff.mpr hc
  exact exists_decode?_iff.mp ⟨_, decode?_renumber hb hb' he hdecode⟩

theorem renumber_renumber (hb : b.build = .ok g) (hb' : b'.build = .ok g')
    (he : Rearranges e b.axes b'.axes) {c : UInt64} (hc : c < g.total) :
    g'.renumber g e.symm (g.renumber g' e c) = c := by
  obtain ⟨bins, hdecode⟩ := exists_decode?_iff.mpr hc
  have hback := decode?_renumber hb' hb he.symm (decode?_renumber hb hb' he hdecode)
  rw [e.symm_apply_apply] at hback
  -- both numbers encode the same bins
  have hencode := (encode?_eq_some_iff_decode? hb).mpr hdecode
  have hencode' := (encode?_eq_some_iff_decode? hb).mpr hback
  exact Option.some.inj (hencode'.symm.trans hencode)

theorem bijOn_renumber (hb : b.build = .ok g) (hb' : b'.build = .ok g')
    (he : Rearranges e b.axes b'.axes) :
    Set.BijOn (g.renumber g' e) {c | c < g.total} {c | c < g'.total} := by
  have hinv : Set.InvOn (g'.renumber g e.symm) (g.renumber g' e)
      {c | c < g.total} {c | c < g'.total} :=
    ⟨fun c hc => renumber_renumber hb hb' he hc, fun c hc => renumber_renumber hb' hb he.symm hc⟩
  exact hinv.bijOn (fun c hc => renumber_lt hb hb' he hc)
    (fun c hc => renumber_lt hb' hb he.symm hc)

theorem categorize?_renumber_iff (hb : b.build = .ok g) (hb' : b'.build = .ok g')
    (he : Rearranges e b.axes b'.axes) (values : Observables) {c : UInt64} (hc : c < g.total) :
    g.categorize? values = some c ↔ g'.categorize? values = some (g.renumber g' e c) := by
  obtain ⟨bins, hdecode⟩ := exists_decode?_iff.mpr hc
  have hencode := (encode?_eq_some_iff_decode? hb).mpr hdecode
  have hencode' := (encode?_eq_some_iff_decode? hb').mpr (decode?_renumber hb hb' he hdecode)
  rw [categorize?_eq_some_iff_binIndices? hb hencode,
    categorize?_eq_some_iff_binIndices? hb' hencode', binIndices?_eq_some_iff,
    binIndices?_eq_some_iff, axes_of_build hb, axes_of_build hb', ne_eq, he.nil_iff,
    Observables.InCell, he.forall₂_iff, Observables.InCell]

/-- Another order of the axes changes the category of an event, but not whether it has
one. -/
theorem categorize?_eq_map_renumber (hb : b.build = .ok g) (hb' : b'.build = .ok g')
    (he : Rearranges e b.axes b'.axes) (values : Observables) :
    g'.categorize? values = (g.categorize? values).map (g.renumber g' e) := by
  cases hcategory : g.categorize? values with
  | some c =>
      exact (categorize?_renumber_iff hb hb' he values (lt_total_of_categorize? hb hcategory)).mp
        hcategory
  | none =>
      rw [Option.map_none, Option.eq_none_iff_forall_ne_some]
      intro c' hc'
      have hback := (categorize?_renumber_iff hb' hb he.symm values
        (lt_total_of_categorize? hb' hc')).mp hc'
      rw [hcategory] at hback
      cases hback

theorem exists_shared_category (hb : b.build = .ok g) (hb' : b'.build = .ok g')
    (he : Rearranges e b.axes b'.axes) {values values' : Observables}
    (h : ∃ c, g.categorize? values = some c ∧ g.categorize? values' = some c) :
    ∃ c, g'.categorize? values = some c ∧ g'.categorize? values' = some c := by
  obtain ⟨c, hc, hc'⟩ := h
  refine ⟨g.renumber g' e c, ?_, ?_⟩
  · rw [categorize?_eq_map_renumber hb hb' he, hc, Option.map_some]
  · rw [categorize?_eq_map_renumber hb hb' he, hc', Option.map_some]

end Renumber

end Grid

/-- The axes of `overlapping`, and before them one on another variable, from 0 to 3 in
bins of width 1. -/
def Blueprint.crossed : Blueprint :=
  ⟨⟨.centFt0c, #[⟨0⟩, ⟨0x3FF0000000000000⟩, ⟨0x4000000000000000⟩, ⟨0x4008000000000000⟩],
    by decide, by decide, fun i hi => Axis.ascending_of_pairwise (by decide) i _ hi⟩ ::
      overlapping.axes⟩

/-- An event in the first bin of the one variable and the second bins of the other. -/
def Observables.crossing : Observables :=
  .ofPairs [(.vtxZ, ⟨0x3FF0000000000000⟩), (.centFt0c, ⟨0⟩)]

namespace Blueprint

/-- In whatever order axes are registered, they make too many cells or as many of them,
whose numbers are exchanged one to one; the same events are rejected and the same ones
share a category. -/
theorem build_perm {b b' : Blueprint} (h : b.axes.Perm b'.axes) :
    (b.build = .error .tooManyCategories ∧ b'.build = .error .tooManyCategories) ∨
    ∃ g g', b.build = .ok g ∧ b'.build = .ok g' ∧ g.total = g'.total ∧
      (∃ p : UInt64 → UInt64, Set.BijOn p {c | c < g.total} {c | c < g.total} ∧
        ∀ values c, c < g.total →
          (g.categorize? values = some c ↔ g'.categorize? values = some (p c))) ∧
      (∀ values, g.categorize? values = none ↔ g'.categorize? values = none) ∧
      ∀ values values',
        (∃ c, g.categorize? values = some c ∧ g.categorize? values' = some c) ↔
          ∃ c, g'.categorize? values = some c ∧ g'.categorize? values' = some c := by
  have hcells := cellCount_perm h
  rcases Nat.lt_or_ge (cellCount b.axes) UInt64.size with hfits | hmany
  · obtain ⟨g, hb⟩ := exists_build hfits
    obtain ⟨g', hb'⟩ := exists_build (hcells ▸ hfits)
    obtain ⟨e, he⟩ := exists_rearranges h
    have htotal : g.total = g'.total := by
      rw [← UInt64.toNat_inj, total_of_build hb, total_of_build hb', hcells]
      simp only [he.nil_iff]
    refine Or.inr ⟨g, g', hb, hb', htotal,
      ⟨g.renumber g' e, htotal ▸ Grid.bijOn_renumber hb hb' he,
        fun values c hc => Grid.categorize?_renumber_iff hb hb' he values hc⟩,
      fun values => ?_, fun values values' => ?_⟩
    · rw [Grid.categorize?_eq_map_renumber hb hb' he, Option.map_eq_none_iff]
    · exact ⟨Grid.exists_shared_category hb hb' he, Grid.exists_shared_category hb' hb he.symm⟩
  · exact Or.inl ⟨build_eq_error_iff.mpr hmany, build_eq_error_iff.mpr (hcells ▸ hmany)⟩

/-- With the axes turned around, the cell of `Observables.crossing` has the number 9 in
place of 3. -/
theorem build_perm_crossed :
    crossed.axes.Perm crossed.axes.reverse ∧
      ∃ g g' p, crossed.build = .ok g ∧ build ⟨crossed.axes.reverse⟩ = .ok g' ∧
        Set.BijOn p {c | c < g.total} {c | c < g.total} ∧ p 3 = 9 := by
  have hperm : crossed.axes.Perm crossed.axes.reverse := (List.reverse_perm _).symm
  have hbefore : crossed.build.toOption.bind (·.categorize? .crossing) = some 3 := by
    decide +kernel
  have hafter : (build ⟨crossed.axes.reverse⟩).toOption.bind (·.categorize? .crossing)
      = some 9 := by decide +kernel
  rcases @build_perm crossed ⟨crossed.axes.reverse⟩ hperm with
    ⟨hfails, -⟩ | ⟨g, g', hb, hb', -, ⟨p, hp, hiff⟩, -⟩
  · rw [hfails] at hbefore
    cases hbefore
  · rw [hb] at hbefore
    rw [hb'] at hafter
    have hnumber := (hiff .crossing 3 (Grid.lt_total_of_categorize? hb hbefore)).mp hbefore
    exact ⟨hperm, g, g', p, hb, hb', hp, Option.some.inj (hnumber.symm.trans hafter)⟩

end Blueprint

end EventMixing
