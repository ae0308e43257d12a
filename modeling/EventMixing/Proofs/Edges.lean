import Mathlib.Data.List.Forall2
import Mathlib.Order.Bounds.Basic
import EventMixing.Proofs.Bins
import EventMixing.Proofs.Registration

/-!
# Which edges make an axis

Only neighbours are compared, and only for `≤` the wrong way round. Among finite edges
this is enough: neither a NaN nor an infinity is left that could break the chain, so that
each edge lies below all later ones (`exists_ofEdges_iff`).

Where edges make no axis, `FirstFlaw` says what is reported: that there are too few, else
the first that is not finite, else the first that does not exceed its neighbour. There is
one such flaw or an axis, and never both (`ofEdges_eq_error_iff`). The sign of a zero has
no part in any of this (`EqUpToZeroSigns.ofEdges_eq_error_iff`).
-/

namespace EventMixing

/-- The same number word for word, but for the sign of a zero. -/
def Double.EqUpToZeroSign (a b : Double) : Prop :=
  a = b ∨ a.magnitude = 0 ∧ b.magnitude = 0

namespace Double.EqUpToZeroSign

variable {a b c d : Double}

theorem symm (h : EqUpToZeroSign a b) : EqUpToZeroSign b a :=
  h.imp Eq.symm And.symm

theorem isFinite_eq (h : EqUpToZeroSign a b) : a.isFinite = b.isFinite := by
  rcases h with rfl | ⟨ha, hb⟩
  · rfl
  · rw [isFinite, isFinite, ha, hb]

theorem isNaN_eq (h : EqUpToZeroSign a b) : a.isNaN = b.isNaN := by
  rcases h with rfl | ⟨ha, hb⟩
  · rfl
  · rw [isNaN, isNaN, ha, hb]

theorem key_eq (h : EqUpToZeroSign a b) : a.key = b.key := by
  rcases h with rfl | ⟨ha, hb⟩
  · rfl
  · simp [key, ha, hb]

theorem le_iff (h : EqUpToZeroSign a b) (h' : EqUpToZeroSign c d) : a ≤ c ↔ b ≤ d := by
  rw [le_def, le_def, Comparable, Comparable, h.isNaN_eq, h'.isNaN_eq, h.key_eq, h'.key_eq]

end Double.EqUpToZeroSign

namespace Axis

variable {v : Variable} {edges edges' : Array Double} {i : Nat}

/-! ## What can be wrong with edges -/

/-- The edge at a position is infinite or no number. -/
def NonFiniteAt (edges : Array Double) (i : Nat) : Prop :=
  ∃ e, edges[i]? = some e ∧ e.isFinite = false

/-- The edge at a position does not exceed the one before it. -/
def DescendsAt (edges : Array Double) (i : Nat) : Prop :=
  ∃ lower upper, 0 < i ∧ edges[i - 1]? = some lower ∧ edges[i]? = some upper ∧ upper ≤ lower

/-- What is reported of edges: their number where there are too few, else the first that is
not finite, else the first that does not exceed the one before it. -/
inductive FirstFlaw (v : Variable) (edges : Array Double) : MixingError → Prop
  | tooFew (h : edges.size < 2) : FirstFlaw v edges (.tooFewEdges v edges.size)
  | nonFinite {i : Nat} (h : 2 ≤ edges.size) (first : IsLeast {i | NonFiniteAt edges i} i) :
      FirstFlaw v edges (.nonFiniteEdge v i)
  | unsorted {i : Nat} (h : 2 ≤ edges.size) (finite : ∀ e ∈ edges, e.isFinite = true)
      (first : IsLeast {i | DescendsAt edges i} i) : FirstFlaw v edges (.unsortedEdges v i)

theorem descendsAt_succ_iff (h : i < edges.size) (h' : i + 1 < edges.size) :
    DescendsAt edges (i + 1) ↔ edges[i + 1] ≤ edges[i] := by
  simp [DescendsAt, Array.getElem?_eq_getElem h, Array.getElem?_eq_getElem h']

/-- A descent has an edge before it. -/
theorem DescendsAt.exists_eq_succ (h : DescendsAt edges i) :
    ∃ j, i = j + 1 ∧ j + 1 < edges.size := by
  obtain ⟨lower, upper, hpos, -, hupper, -⟩ := h
  have hlt := (Array.getElem?_eq_some_iff.mp hupper).1
  exact ⟨i - 1, by omega, by omega⟩

/-! ## The searches -/

theorem findIdx?_eq_some_iff_nonFiniteAt :
    edges.findIdx? (fun e => !e.isFinite) = some i ↔ IsLeast {i | NonFiniteAt edges i} i := by
  rw [Array.findIdx?_eq_some_iff_getElem]
  constructor
  · rintro ⟨hi, hflaw, hbefore⟩
    refine ⟨⟨_, Array.getElem?_eq_getElem hi, by simpa using hflaw⟩, ?_⟩
    rintro j ⟨e, he, hflaw'⟩
    obtain ⟨_, rfl⟩ := Array.getElem?_eq_some_iff.mp he
    refine Nat.le_of_not_lt fun hlt => ?_
    simpa [hflaw'] using hbefore j hlt
  · rintro ⟨⟨e, he, hflaw⟩, hleast⟩
    obtain ⟨hi, rfl⟩ := Array.getElem?_eq_some_iff.mp he
    refine ⟨hi, by simpa using hflaw, fun j hlt hflaw' => ?_⟩
    have hmem : NonFiniteAt edges j := ⟨_, Array.getElem?_eq_getElem _, by simpa using hflaw'⟩
    exact absurd (hleast hmem) (Nat.not_le_of_lt hlt)

/-- The search goes through the neighbours from `start` on and stops at the first descent. -/
theorem firstDescent?_eq_some_iff {start : Nat} :
    firstDescent? edges start = some i ↔ IsLeast {i | start < i ∧ DescendsAt edges i} i := by
  fun_induction firstDescent? edges start with
  | case1 start h hdescent =>
      rw [Option.some.injEq]
      have hleast : IsLeast {i | start < i ∧ DescendsAt edges i} (start + 1) :=
        ⟨⟨Nat.lt_succ_self start, (descendsAt_succ_iff _ h).mpr hdescent⟩, fun j hj => hj.1⟩
      exact ⟨fun heq => heq ▸ hleast, fun hi => hleast.unique hi⟩
  | case2 start h hdescent ih =>
      -- the neighbours at `start` ascend, so the first descent is further on
      have hsame : {i | start < i ∧ DescendsAt edges i}
          = {i | start + 1 < i ∧ DescendsAt edges i} := by
        ext j
        refine and_congr_left fun hj => ⟨fun hlt => ?_, Nat.lt_of_succ_lt⟩
        refine Nat.lt_of_le_of_ne hlt ?_
        rintro rfl
        exact hdescent ((descendsAt_succ_iff _ h).mp hj)
      rw [ih, hsame]
  | case3 start h =>
      simp only [reduceCtorEq, false_iff]
      rintro ⟨⟨hlt, hdescent⟩, -⟩
      obtain ⟨j, rfl, hj⟩ := hdescent.exists_eq_succ
      omega

theorem firstDescent?_zero_eq_some_iff :
    firstDescent? edges 0 = some i ↔ IsLeast {i | DescendsAt edges i} i := by
  have hsame : {i | 0 < i ∧ DescendsAt edges i} = {i | DescendsAt edges i} := by
    ext j
    refine and_iff_right_of_imp fun hj => ?_
    obtain ⟨k, rfl, -⟩ := hj.exists_eq_succ
    exact Nat.succ_pos k
  rw [firstDescent?_eq_some_iff, hsame]

/-! ## An axis or a flaw -/

theorem forall_isFinite_iff :
    (∀ e ∈ edges, e.isFinite = true) ↔ ∀ i, ¬ NonFiniteAt edges i := by
  constructor
  · rintro hfinite i ⟨e, he, hflaw⟩
    rw [hfinite e (Array.mem_of_getElem? he)] at hflaw
    cases hflaw
  · intro hnone e he
    obtain ⟨i, hi, rfl⟩ := Array.mem_iff_getElem.mp he
    rw [← Bool.not_eq_false]
    exact fun hflaw => hnone i ⟨_, Array.getElem?_eq_getElem hi, hflaw⟩

theorem FirstFlaw.unique {e e' : MixingError} (h : FirstFlaw v edges e)
    (h' : FirstFlaw v edges e') : e = e' := by
  cases h with
  | tooFew hfew =>
      cases h' with
      | tooFew => rfl
      | nonFinite hsize => omega
      | unsorted hsize => omega
  | nonFinite hsize hfirst =>
      cases h' with
      | tooFew hfew => omega
      | nonFinite _ hfirst' => rw [hfirst.unique hfirst']
      | unsorted _ hfinite => exact absurd hfirst.1 (forall_isFinite_iff.mp hfinite _)
  | unsorted hsize hfinite hfirst =>
      cases h' with
      | tooFew hfew => omega
      | nonFinite _ hfirst' => exact absurd hfirst'.1 (forall_isFinite_iff.mp hfinite _)
      | unsorted _ _ hfirst' => rw [hfirst.unique hfirst']

theorem not_firstFlaw (hsize : 2 ≤ edges.size) (hfinite : ∀ e ∈ edges, e.isFinite = true)
    (hascends : ∀ i j (_ : i < j) (hj : j < edges.size), edges[i] < edges[j]) (e : MixingError) :
    ¬ FirstFlaw v edges e := by
  intro h
  cases h with
  | tooFew hfew => omega
  | nonFinite _ hfirst => exact forall_isFinite_iff.mp hfinite _ hfirst.1
  | unsorted _ _ hfirst =>
      obtain ⟨i, rfl, hi⟩ := hfirst.1.exists_eq_succ
      exact Double.not_lt_of_le ((descendsAt_succ_iff _ hi).mp hfirst.1)
        (hascends i (i + 1) (Nat.lt_succ_self i) hi)

theorem firstFlaw_of_ofEdges {e : MixingError} (h : ofEdges v edges = .error e) :
    FirstFlaw v edges e := by
  unfold ofEdges at h
  split at h
  · rename_i hfew
    obtain rfl := Except.error.inj h
    exact .tooFew hfew
  · rename_i hsize
    split at h
    · rename_i index hfound
      obtain rfl := Except.error.inj h
      exact .nonFinite (Nat.le_of_not_lt hsize) (findIdx?_eq_some_iff_nonFiniteAt.mp hfound)
    · rename_i hnone
      have hfinite : ∀ e ∈ edges, e.isFinite = true := by
        simpa [Array.findIdx?_eq_none_iff] using hnone
      split at h
      · rename_i index hfound
        obtain rfl := Except.error.inj h
        exact .unsorted (Nat.le_of_not_lt hsize) hfinite
          (firstDescent?_zero_eq_some_iff.mp hfound)
      · cases h

/-- What is reported is the first flaw, and without a flaw nothing is. -/
theorem ofEdges_eq_error_iff {e : MixingError} :
    ofEdges v edges = .error e ↔ FirstFlaw v edges e := by
  refine ⟨firstFlaw_of_ofEdges, fun hflaw => ?_⟩
  cases h : ofEdges v edges with
  | ok axis =>
      obtain ⟨-, rfl⟩ := eq_of_ofEdges h
      exact absurd hflaw (not_firstFlaw axis.two_le_size axis.finite
        (fun i j hij hj => axis.edges_lt hij hj) e)
  | error e' => rw [(firstFlaw_of_ofEdges h).unique hflaw]

/-- Two or more finite edges make an axis where each is below all that come after it. -/
theorem exists_ofEdges_iff :
    (∃ axis, ofEdges v edges = .ok axis) ↔
      2 ≤ edges.size ∧ (∀ e ∈ edges, e.isFinite = true) ∧
        ∀ i j (_ : i < j) (hj : j < edges.size), edges[i] < edges[j] := by
  constructor
  · rintro ⟨axis, haxis⟩
    obtain ⟨-, rfl⟩ := eq_of_ofEdges haxis
    exact ⟨axis.two_le_size, axis.finite, fun i j hij hj => axis.edges_lt hij hj⟩
  · rintro ⟨hsize, hfinite, hascends⟩
    cases h : ofEdges v edges with
    | ok axis => exact ⟨axis, rfl⟩
    | error e => exact absurd (firstFlaw_of_ofEdges h) (not_firstFlaw hsize hfinite hascends e)

/-! ## Signs of zeros -/

/-- Edges that are the same one by one, but for the signs of zeros. -/
def EqUpToZeroSigns (edges edges' : Array Double) : Prop :=
  List.Forall₂ Double.EqUpToZeroSign edges.toList edges'.toList

namespace EqUpToZeroSigns

theorem symm (h : EqUpToZeroSigns edges edges') : EqUpToZeroSigns edges' edges :=
  (List.Forall₂.flip h).imp fun _ _ => Double.EqUpToZeroSign.symm

theorem exists_getElem? (h : EqUpToZeroSigns edges edges') {a : Double}
    (ha : edges[i]? = some a) : ∃ b, edges'[i]? = some b ∧ a.EqUpToZeroSign b := by
  obtain ⟨hi, rfl⟩ := Array.getElem?_eq_some_iff.mp ha
  have hi' : i < edges'.size := Nat.lt_of_lt_of_eq hi (List.Forall₂.length_eq h)
  exact ⟨edges'[i], Array.getElem?_eq_getElem hi', List.Forall₂.get h hi hi'⟩

theorem nonFiniteAt (h : EqUpToZeroSigns edges edges') (hi : NonFiniteAt edges i) :
    NonFiniteAt edges' i := by
  obtain ⟨e, he, hflaw⟩ := hi
  obtain ⟨e', he', hsame⟩ := h.exists_getElem? he
  exact ⟨e', he', hsame.isFinite_eq ▸ hflaw⟩

theorem descendsAt (h : EqUpToZeroSigns edges edges') (hi : DescendsAt edges i) :
    DescendsAt edges' i := by
  obtain ⟨lower, upper, hpos, hlower, hupper, hle⟩ := hi
  obtain ⟨lower', hlower', hsame⟩ := h.exists_getElem? hlower
  obtain ⟨upper', hupper', hsame'⟩ := h.exists_getElem? hupper
  exact ⟨lower', upper', hpos, hlower', hupper', (hsame'.le_iff hsame).mp hle⟩

theorem firstFlaw (h : EqUpToZeroSigns edges edges') {e : MixingError}
    (hflaw : FirstFlaw v edges e) : FirstFlaw v edges' e := by
  have hsize : edges.size = edges'.size := List.Forall₂.length_eq h
  have hnonFinite : {i | NonFiniteAt edges i} = {i | NonFiniteAt edges' i} :=
    Set.ext fun i => ⟨h.nonFiniteAt, h.symm.nonFiniteAt⟩
  have hdescends : {i | DescendsAt edges i} = {i | DescendsAt edges' i} :=
    Set.ext fun i => ⟨h.descendsAt, h.symm.descendsAt⟩
  cases hflaw with
  | tooFew hfew => exact hsize ▸ .tooFew (hsize ▸ hfew)
  | nonFinite hmany hfirst => exact .nonFinite (hsize ▸ hmany) (hnonFinite ▸ hfirst)
  | unsorted hmany hfinite hfirst =>
      refine .unsorted (hsize ▸ hmany) (forall_isFinite_iff.mpr fun i hi => ?_)
        (hdescends ▸ hfirst)
      exact forall_isFinite_iff.mp hfinite i (h.symm.nonFiniteAt hi)

theorem ofEdges_eq_error_iff (h : EqUpToZeroSigns edges edges') {e : MixingError} :
    ofEdges v edges = .error e ↔ ofEdges v edges' = .error e := by
  rw [Axis.ofEdges_eq_error_iff, Axis.ofEdges_eq_error_iff]
  exact ⟨h.firstFlaw, h.symm.firstFlaw⟩

end EqUpToZeroSigns

/-- An edge like the one before it, be it that a zero has another sign, does not exceed it. -/
theorem descendsAt_succ_of_eqUpToZeroSign {a b : Double} (ha : edges[i]? = some a)
    (hb : edges[i + 1]? = some b) (hfinite : a.isFinite = true) (hsame : a.EqUpToZeroSign b) :
    DescendsAt edges (i + 1) := by
  have hnumber := Double.isNaN_of_isFinite hfinite
  have hle : b ≤ a :=
    Double.le_def.mpr ⟨⟨hsame.isNaN_eq ▸ hnumber, hnumber⟩, Int.le_of_eq hsame.key_eq.symm⟩
  exact ⟨a, b, Nat.succ_pos i, ha, hb, hle⟩

/-- Edges make an axis, and one with just these edges, where there are two or more, all
finite, and each lies below all later ones. What is reported else is their number, then the
first edge that is not finite even if the order is broken before it, then the first one that
does not exceed the one before it. Zeros of both signs are the same edge. -/
theorem ofEdges_reports_first_flaw (v : Variable) (edges : Array Double) :
    ((∃ axis, ofEdges v edges = .ok axis) ↔
      2 ≤ edges.size ∧ (∀ e ∈ edges, e.isFinite = true) ∧
        ∀ i j (_ : i < j) (hj : j < edges.size), edges[i] < edges[j]) ∧
    (∀ axis, ofEdges v edges = .ok axis → axis.observable = v ∧ axis.edges = edges) ∧
    (∀ e, ofEdges v edges = .error e ↔ FirstFlaw v edges e) ∧
    (∀ i a b, edges[i]? = some a → edges[i + 1]? = some b → a.isFinite = true →
      a.EqUpToZeroSign b → DescendsAt edges (i + 1)) ∧
    ∀ edges', EqUpToZeroSigns edges edges' →
      ∀ e, ofEdges v edges = .error e ↔ ofEdges v edges' = .error e :=
  ⟨exists_ofEdges_iff, fun _ haxis => eq_of_ofEdges haxis, fun _ => ofEdges_eq_error_iff,
    fun _ _ _ ha hb hfinite hsame => descendsAt_succ_of_eqUpToZeroSign ha hb hfinite hsame,
    fun _ hsame _ => hsame.ofEdges_eq_error_iff⟩

/-- An infinity after two edges in the wrong order is what is reported of them, and the
zeros of both signs make no bin, whichever comes first. -/
theorem ofEdges_reports_first_flaw_zeros :
    ofEdges .vtxZ #[⟨0x3FF0000000000000⟩, ⟨0⟩, .infinity] = .error (.nonFiniteEdge .vtxZ 2) ∧
      ofEdges .vtxZ #[⟨0x8000000000000000⟩, ⟨0⟩] = .error (.unsortedEdges .vtxZ 1) ∧
      ofEdges .vtxZ #[⟨0⟩, ⟨0x8000000000000000⟩] = .error (.unsortedEdges .vtxZ 1) ∧
      ∃ axis, ofEdges .vtxZ #[⟨0⟩, ⟨0x3FF0000000000000⟩] = .ok axis ∧
        axis.edges = #[⟨0⟩, ⟨0x3FF0000000000000⟩] := by
  have hzeros : ofEdges .vtxZ #[⟨0x8000000000000000⟩, ⟨0⟩] = .error (.unsortedEdges .vtxZ 1) := by
    obtain ⟨-, -, hflaw, hdescends, -⟩ :=
      ofEdges_reports_first_flaw .vtxZ #[⟨0x8000000000000000⟩, ⟨0⟩]
    have hfirst := hdescends 0 ⟨0x8000000000000000⟩ ⟨0⟩ rfl rfl (by decide) (Or.inr (by decide))
    refine (hflaw _).mpr (.unsorted (by decide) (by decide) ⟨hfirst, fun j hj => ?_⟩)
    exact hj.choose_spec.choose_spec.1
  have hswapped : EqUpToZeroSigns #[⟨0x8000000000000000⟩, ⟨0⟩] #[⟨0⟩, ⟨0x8000000000000000⟩] :=
    .cons (Or.inr (by decide)) (.cons (Or.inr (by decide)) .nil)
  obtain ⟨hok, hedges, -⟩ := ofEdges_reports_first_flaw .vtxZ #[⟨0⟩, ⟨0x3FF0000000000000⟩]
  obtain ⟨axis, haxis⟩ := hok.mpr <| by
    refine ⟨by decide, by decide, fun i j hij hj => ?_⟩
    have hlast : j < 2 := hj
    obtain ⟨rfl, rfl⟩ : i = 0 ∧ j = 1 := by omega
    show (⟨0⟩ : Double) < ⟨0x3FF0000000000000⟩
    decide
  exact ⟨by decide +kernel, hzeros, ((ofEdges_reports_first_flaw .vtxZ _).2.2.2.2 _ hswapped _).mp hzeros,
    axis, haxis, (hedges axis haxis).2⟩

end Axis

end EventMixing
