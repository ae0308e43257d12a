import Mathlib.Data.List.Induction
import Mathlib.Order.Bounds.Basic
import EventMixing.Proofs.Cells
import EventMixing.Proofs.Registration

/-!
# The last axis on a variable

Of several axes on one variable the last one answers for it. A blueprint searches for it
from the end, a grid looks it up in a table that was filled from the front, and both find
the greatest position (`lookup?_eq_some_iff`, `lookup?_of_build`), for both go by the same
rule when an axis is added (`lookup?_snoc`, `entry_lastPositions_snoc`).

What a grid then tells of a category for the variable is the entry there of all its bins:
`decodePlace?_eq_some_iff`. So there is an answer for every variable with an axis and every
category of the grid. `queries_answer_for_last_axis` says this of the grids that runs of
registrations lead to.
-/

namespace EventMixing

/-- The positions of the axes on a variable. -/
def Axis.positionsOn (axes : List Axis) (v : Variable) : Set Nat :=
  {p | ∃ axis, axes[p]? = some axis ∧ axis.observable = v}

theorem Axis.mem_positionsOn_snoc {axes : List Axis} {axis : Axis} {v : Variable} {p : Nat} :
    p ∈ positionsOn (axes ++ [axis]) v ↔
      p ∈ positionsOn axes v ∨ p = axes.length ∧ axis.observable = v := by
  simp only [positionsOn, Set.mem_ofPred_eq]
  rcases Nat.lt_trichotomy p axes.length with hlt | rfl | hgt
  · rw [List.getElem?_append_left hlt]
    simp [Nat.ne_of_lt hlt]
  · simp
  · rw [List.getElem?_eq_none (by simp; omega), List.getElem?_eq_none (Nat.le_of_lt hgt)]
    simp [Nat.ne_of_gt hgt]

theorem Axis.lt_length_of_mem_positionsOn {axes : List Axis} {v : Variable} {p : Nat}
    (h : p ∈ positionsOn axes v) : p < axes.length := by
  obtain ⟨axis, haxis, -⟩ := h
  exact (List.getElem?_eq_some_iff.mp haxis).1

namespace Blueprint

/-! ## Searching and looking up -/

/-- One more axis is the last one on its variable, and leaves the last ones on others. -/
theorem lookup?_snoc (axes : List Axis) (axis : Axis) (v : Variable) :
    lookup? ⟨axes ++ [axis]⟩ v =
      if axis.observable = v then some axes.length else lookup? ⟨axes⟩ v := by
  simp only [lookup?, List.reverse_append, List.reverse_singleton, List.singleton_append,
    List.findIdx?_cons, List.length_append, List.length_singleton]
  by_cases h : axis.observable = v
  · simp [h]
  · simp only [h, decide_false, Bool.false_eq_true, if_false, Option.map_map]
    congr 1
    funext i
    simp only [Function.comp_apply]
    omega

theorem lastPositions_snoc (axes : List Axis) (axis : Axis) :
    lastPositions (axes ++ [axis])
      = axis.observable.setEntry (lastPositions axes) (some axes.length) := by
  rw [lastPositions, List.zipIdx_append, List.foldl_append, ← lastPositions, Nat.zero_add]
  rfl

theorem entry_lastPositions_snoc (axes : List Axis) (axis : Axis) (v : Variable) :
    v.entry (lastPositions (axes ++ [axis])) =
      if axis.observable = v then some axes.length else v.entry (lastPositions axes) := by
  rw [lastPositions_snoc]
  by_cases h : axis.observable = v
  · rw [if_pos h, ← h, Variable.entry_setEntry_self]
  · rw [if_neg h, Variable.entry_setEntry_of_ne _ h]

/-- The table that is filled from the front has what the search from the end finds. -/
theorem entry_lastPositions (axes : List Axis) (v : Variable) :
    v.entry (lastPositions axes) = lookup? ⟨axes⟩ v := by
  induction axes using List.reverseRecOn with
  | nil => exact Variable.entry_replicate none v
  | append_singleton axes axis ih => rw [entry_lastPositions_snoc, lookup?_snoc, ih]

theorem lookup?_of_build {b : Blueprint} {g : Grid} (hb : b.build = .ok g) (v : Variable) :
    g.lookup? v = b.lookup? v := by
  unfold build at hb
  split at hb
  · cases hb
  · obtain rfl := Except.ok.inj hb
    exact entry_lastPositions b.axes v

/-- The search finds the greatest position of an axis on the variable. -/
theorem lookup?_eq_some_iff {axes : List Axis} {v : Variable} {p : Nat} :
    lookup? ⟨axes⟩ v = some p ↔ IsGreatest (Axis.positionsOn axes v) p := by
  induction axes using List.reverseRecOn with
  | nil => simp [lookup?, IsGreatest, Axis.positionsOn]
  | append_singleton axes axis ih =>
      rw [lookup?_snoc]
      by_cases h : axis.observable = v
      · have hlast : IsGreatest (Axis.positionsOn (axes ++ [axis]) v) axes.length := by
          refine ⟨Axis.mem_positionsOn_snoc.mpr (Or.inr ⟨rfl, h⟩), fun q hq => ?_⟩
          have hlt := Axis.lt_length_of_mem_positionsOn hq
          rw [List.length_append, List.length_singleton] at hlt
          exact Nat.le_of_lt_succ hlt
        rw [if_pos h, Option.some.injEq]
        exact ⟨fun heq => heq ▸ hlast, fun hp => hlast.unique hp⟩
      · have hsame : Axis.positionsOn (axes ++ [axis]) v = Axis.positionsOn axes v := by
          ext q
          simp [Axis.mem_positionsOn_snoc, h]
        rw [if_neg h, hsame, ih]

/-- Where no variable has two axes, each axis is the last one on its variable. -/
theorem lookup?_of_nodup {axes : List Axis} (h : (axes.map (·.observable)).Nodup) {p : Nat}
    {axis : Axis} (haxis : axes[p]? = some axis) : lookup? ⟨axes⟩ axis.observable = some p := by
  rw [lookup?_eq_some_iff]
  refine ⟨⟨axis, haxis, rfl⟩, ?_⟩
  rintro q ⟨other, hother, hsame⟩
  have hlt : q < (axes.map (·.observable)).length := by
    rw [List.length_map]
    exact (List.getElem?_eq_some_iff.mp hother).1
  refine Nat.le_of_eq ((List.getElem?_inj hlt h).mp ?_)
  rw [List.getElem?_map, List.getElem?_map, hother, haxis, Option.map_some, Option.map_some, hsame]

theorem exists_lookup?_iff {axes : List Axis} {v : Variable} :
    (∃ p, lookup? ⟨axes⟩ v = some p) ↔ ∃ axis ∈ axes, axis.observable = v := by
  induction axes using List.reverseRecOn with
  | nil => simp [lookup?]
  | append_singleton axes axis ih =>
      rw [lookup?_snoc]
      by_cases h : axis.observable = v
      · simp [h]
      · simp [h, ih]

end Blueprint

namespace Grid

variable {b : Blueprint} {g : Grid} {v : Variable} {c : UInt64}

/-! ## Asking for one variable -/

/-- The bin of a category on the last axis on a variable is the entry of all its bins at
that axis. -/
theorem decodePlace?_eq_some_iff (hb : b.build = .ok g) {axis : Axis} {bin : Nat} :
    g.decodePlace? v c = some (axis, bin) ↔
      ∃ p bins, b.lookup? v = some p ∧ b.axes[p]? = some axis ∧
        g.decode? c = some bins ∧ bins[p]? = some bin := by
  have haxes : ∀ p : Nat, b.axes[p]? = g.places[p]?.map (·.axis) := by
    intro p
    rw [← axes_of_build hb, axes, List.getElem?_map]
  rw [decodePlace?, Blueprint.lookup?_of_build hb]
  simp only [haxes, decode?]
  cases b.lookup? v with
  | none => simp
  | some p =>
      cases hplace : g.places[p]? with
      | none => simp [hplace]
      | some place => by_cases hc : c < g.total <;> simp [hplace, hc]

theorem exists_decodePlace?_iff (hb : b.build = .ok g) :
    (∃ axis bin, g.decodePlace? v c = some (axis, bin)) ↔
      (∃ axis ∈ b.axes, axis.observable = v) ∧ c < g.total := by
  simp only [decodePlace?_eq_some_iff hb, ← exists_decode?_iff]
  constructor
  · rintro ⟨axis, bin, p, bins, hp, haxis, hdecode, -⟩
    exact ⟨Blueprint.exists_lookup?_iff.mp ⟨p, hp⟩, bins, hdecode⟩
  · rintro ⟨hv, bins, hdecode⟩
    obtain ⟨p, hp⟩ := Blueprint.exists_lookup?_iff.mpr hv
    obtain ⟨axis, haxis, -⟩ := (Blueprint.lookup?_eq_some_iff.mp hp).1
    -- there is a bin for each axis
    have hlength : bins.length = b.axes.length := by
      rw [← axes_of_build hb]
      exact (isCell_of_decode? hdecode).length_eq.symm
    have hbin : p < bins.length := hlength ▸ (List.getElem?_eq_some_iff.mp haxis).1
    exact ⟨axis, _, p, bins, hp, haxis, hdecode, List.getElem?_eq_getElem hbin⟩

theorem lt_binCount_of_decodePlace? {axis : Axis} {bin : Nat}
    (h : g.decodePlace? v c = some (axis, bin)) : bin < axis.binCount := by
  unfold decodePlace? at h
  split at h
  · cases h
  · split at h
    · cases h
    · split at h
      · obtain ⟨rfl, rfl⟩ := Prod.mk.injEq .. |>.mp (Option.some.inj h)
        exact Nat.mod_lt _ (Axis.binCount_pos _)
      · cases h

theorem decodeAxis?_eq_some_iff {bin : Nat} :
    g.decodeAxis? v c = some bin ↔ ∃ axis, g.decodePlace? v c = some (axis, bin) := by
  simp [decodeAxis?]

theorem binRange?_eq_some_iff {range : Double × Double} :
    g.binRange? v c = some range ↔
      ∃ axis bin, g.decodePlace? v c = some (axis, bin) ∧ axis.binBounds? bin = some range := by
  simp [binRange?, Option.bind_eq_some_iff]

/-- Where there is a bin, there are its bounds. -/
theorem exists_binRange?_iff :
    (∃ range, g.binRange? v c = some range) ↔ ∃ bin, g.decodeAxis? v c = some bin := by
  simp only [binRange?_eq_some_iff, decodeAxis?_eq_some_iff]
  constructor
  · rintro ⟨range, axis, bin, hplace, -⟩
    exact ⟨bin, axis, hplace⟩
  · rintro ⟨bin, axis, hplace⟩
    obtain ⟨lower, upper, hbounds⟩ :=
      Axis.exists_binBounds? (lt_binCount_of_decodePlace? hplace)
    exact ⟨_, axis, bin, hplace, hbounds⟩

/-- The bin is the decoded category's on the last axis on the variable, and the range is
bounded by its edges. -/
theorem lastAxis_of_decodeAxis? (hb : b.build = .ok g) {bin : Nat}
    (h : g.decodeAxis? v c = some bin) :
    ∃ p axis bins lower upper, b.lookup? v = some p ∧ b.axes[p]? = some axis ∧
      g.decode? c = some bins ∧ bins[p]? = some bin ∧
      axis.edges[bin]? = some lower ∧ axis.edges[bin + 1]? = some upper ∧ lower < upper ∧
      g.binRange? v c = some (lower, upper) := by
  obtain ⟨axis, hplace⟩ := decodeAxis?_eq_some_iff.mp h
  obtain ⟨p, bins, hp, haxis, hdecode, hbin⟩ := (decodePlace?_eq_some_iff hb).mp hplace
  obtain ⟨lower, upper, hbounds⟩ := Axis.exists_binBounds? (lt_binCount_of_decodePlace? hplace)
  obtain ⟨hlower, hupper⟩ := Axis.edges_of_binBounds? hbounds
  exact ⟨p, axis, bins, lower, upper, hp, haxis, hdecode, hbin, hlower, hupper,
    Axis.lt_of_binBounds? hbounds, binRange?_eq_some_iff.mpr ⟨axis, bin, hplace, hbounds⟩⟩

end Grid

/-! ## Grids of registered axes -/

theorem Axis.limits_eq_of_calls {axes : List Axis} {calls : List Registration}
    (h : axes.map Registration.ofAxis = calls) (v : Variable) :
    Axis.limits axes v
      = (calls.filter (·.observable = v)).flatMap (·.edges.toList) := by
  rw [← h, List.filter_map, List.flatMap_map]
  rfl

/-- After any run of registrations the blueprint and the grid built from it give the same
position for a variable, the greatest of an axis on it. For it and a category of the grid,
and in no other case, there is a bin, the entry at that position of the category's bins, and
a range, between that bin's edges. The limits are the edges given in the successful calls
for the variable, call by call. -/
theorem Registration.queries_answer_for_last_axis {ρ : Type} [VariableRegistry ρ]
    {calls : List Registration} {registry registry' : ρ}
    {answers : List (Except MixingError Unit)} {b : Blueprint}
    (hrun : (performAll calls).run (.empty, registry) = (answers, b, registry'))
    {g : Grid} (hb : b.build = .ok g) (v : Variable) :
    g.lookup? v = b.lookup? v ∧
    (∀ p, b.lookup? v = some p ↔ IsGreatest (Axis.positionsOn b.axes v) p) ∧
    ((∃ p, b.lookup? v = some p) ↔ ∃ axis ∈ b.axes, axis.observable = v) ∧
    (∀ c, (∃ bin, g.decodeAxis? v c = some bin) ↔
      (∃ axis ∈ b.axes, axis.observable = v) ∧ c < g.total) ∧
    (∀ c, (∃ range, g.binRange? v c = some range) ↔ ∃ bin, g.decodeAxis? v c = some bin) ∧
    (∀ c bin, g.decodeAxis? v c = some bin →
      ∃ p axis bins lower upper, b.lookup? v = some p ∧ b.axes[p]? = some axis ∧
        g.decode? c = some bins ∧ bins[p]? = some bin ∧
        axis.edges[bin]? = some lower ∧ axis.edges[bin + 1]? = some upper ∧ lower < upper ∧
        g.binRange? v c = some (lower, upper)) ∧
    g.limits v = b.limits v ∧
    b.limits v = ((accepted calls answers).filter (·.observable = v)).flatMap (·.edges.toList) := by
  refine ⟨Blueprint.lookup?_of_build hb v, fun p => Blueprint.lookup?_eq_some_iff,
    Blueprint.exists_lookup?_iff, fun c => ?_, fun c => Grid.exists_binRange?_iff,
    fun c bin h => Grid.lastAxis_of_decodeAxis? hb h, ?_,
    Axis.limits_eq_of_calls (performAll_records hrun).axes_eq v⟩
  · rw [← Grid.exists_decodePlace?_iff hb, exists_comm]
    simp only [Grid.decodeAxis?_eq_some_iff]
  · rw [Grid.limits, Blueprint.limits, axes_of_build hb]

/-- Of three calls the second fails, and of the two axes on one variable the second one
answers. -/
theorem Registration.queries_answer_for_last_axis_overlapping :
    ∃ calls answers log, accepted calls answers ≠ calls ∧
      (performAll calls).run (.empty, ([] : List Variable))
        = (answers, Blueprint.overlapping, log) ∧
      Blueprint.overlapping.build = .ok .overlapping ∧
      Grid.overlapping.lookup? .vtxZ = some 1 ∧
      Grid.overlapping.decodeAxis? .vtxZ 2 = some 0 ∧
      Grid.overlapping.binRange? .vtxZ 2
        = some (⟨0xBFF0000000000000⟩, ⟨0x3FF0000000000000⟩) ∧
      Grid.overlapping.limits .vtxZ = [⟨0⟩, ⟨0x3FF0000000000000⟩, ⟨0x4000000000000000⟩,
        ⟨0xBFF0000000000000⟩, ⟨0x3FF0000000000000⟩, ⟨0x4008000000000000⟩] := by
  have hrun : (performAll [
      ⟨.vtxZ, #[⟨0⟩, ⟨0x3FF0000000000000⟩, ⟨0x4000000000000000⟩]⟩, ⟨.psi2, #[⟨0⟩]⟩,
      ⟨.vtxZ, #[⟨0xBFF0000000000000⟩, ⟨0x3FF0000000000000⟩, ⟨0x4008000000000000⟩]⟩]).run
        (.empty, ([] : List Variable))
      = ([.ok (), .error (.tooFewEdges .psi2 1), .ok ()], .overlapping, [.vtxZ, .vtxZ]) := by
    show @Eq (List (Except MixingError Unit) × Blueprint × List Variable) _ _
    decide +kernel
  have hbuild : Blueprint.overlapping.build = .ok .overlapping := by decide
  obtain ⟨hlookup, -, -, -, -, hanswers, hlimits, hcalls⟩ :=
    queries_answer_for_last_axis hrun hbuild .vtxZ
  have hbin : Grid.overlapping.decodeAxis? .vtxZ 2 = some 0 := by decide
  obtain ⟨p, axis, bins, lower, upper, hp, haxis, -, -, hlower, hupper, -, hrange⟩ :=
    hanswers 2 0 hbin
  obtain rfl : 1 = p := Option.some.inj (by rw [← hp]; decide)
  obtain rfl := Option.some.inj (hlower.symm.trans (by rw [← Option.some.inj haxis]; rfl))
  obtain rfl := Option.some.inj (hupper.symm.trans (by rw [← Option.some.inj haxis]; rfl))
  refine ⟨_, _, _, by decide, hrun, hbuild, hlookup.trans hp, hbin, hrange, ?_⟩
  rw [hlimits, hcalls]
  rfl

end EventMixing
