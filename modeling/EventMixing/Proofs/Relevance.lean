import EventMixing.Proofs.Mixing

/-!
# Which observables matter

A grid looks at the variables of its axes and at nothing else
(`binIndices?_congr`, `categorize?_congr`). So a table may be read with any set of
variables that has those of the axes, and its rows get the same categories; with one
of them left out they get none, for what is not read is NaN and lies in no bin.

Setting up a configured grid marks just the variables of its axes
(`contains_of_toGrid`), which is therefore the smallest set that will do.
`reads_axes_only` says all of this of one grid.
-/

namespace EventMixing

/-- The variable is that of an axis of the grid. -/
def Grid.Observes (g : Grid) (v : Variable) : Prop := ∃ axis ∈ g.axes, axis.observable = v

/-- The set has all variables of the grid's axes. -/
def VariableSet.Covers (used : VariableSet) (g : Grid) : Prop :=
  ∀ v, g.Observes v → used.contains v = true

namespace Grid

/-! ## Values that agree on the axes -/

theorem inCell_congr {values values' : Observables} {axes : List Axis} {bins : List Nat}
    (h : ∀ axis ∈ axes, values.get axis.observable = values'.get axis.observable) :
    values.InCell axes bins ↔ values'.InCell axes bins := by
  unfold Observables.InCell
  induction axes generalizing bins with
  | nil => cases bins <;> simp
  | cons axis axes ih =>
      rw [List.forall_mem_cons] at h
      cases bins with
      | nil => simp
      | cons bin bins => rw [List.forall₂_cons, List.forall₂_cons, h.1, ih h.2]

variable {g : Grid} {values values' : Observables}

theorem binIndices?_congr (h : ∀ v, g.Observes v → values.get v = values'.get v) :
    g.binIndices? values = g.binIndices? values' := by
  have hagree : ∀ axis ∈ g.axes, values.get axis.observable = values'.get axis.observable :=
    fun axis haxis => h _ ⟨axis, haxis, rfl⟩
  refine Option.ext fun bins => ?_
  rw [binIndices?_eq_some_iff, binIndices?_eq_some_iff, inCell_congr hagree]

theorem categorize?_congr (h : ∀ v, g.Observes v → values.get v = values'.get v) :
    g.categorize? values = g.categorize? values' := by
  refine Option.ext fun c => ?_
  rw [categorize?_eq_some_iff, categorize?_eq_some_iff, binIndices?_congr h]

theorem categorize?_eq_none_of_isNaN {v : Variable} (hv : g.Observes v)
    (hnan : (values.get v).isNaN = true) : g.categorize? values = none := by
  obtain ⟨axis, haxis, rfl⟩ := hv
  exact categorize?_eq_none_iff.mpr
    (Or.inr ⟨axis, haxis, Axis.findBin?_eq_none_iff.mpr (Or.inl hnan)⟩)

end Grid

/-! ## Tables read with several sets of variables -/

namespace Table

variable {t : Table} {g : Grid} {used used' : VariableSet} {rows rows' : List Observables}

theorem categorizeRows_of_observables (h : t.observables used = .ok rows) :
    g.categorizeRows rows
      = (List.range t.rows).map fun row => g.categorize? (t.rowAt used row) := by
  obtain ⟨-, rfl⟩ := observables_eq_ok_iff.mp h
  rw [Grid.categorizeRows, List.map_map]
  rfl

theorem categorizeRows_eq_of_covers (hused : used.Covers g) (hused' : used'.Covers g)
    (h : t.observables used = .ok rows) (h' : t.observables used' = .ok rows') :
    g.categorizeRows rows = g.categorizeRows rows' := by
  rw [categorizeRows_of_observables h, categorizeRows_of_observables h']
  refine List.map_congr_left fun row _ => Grid.categorize?_congr fun v hv => ?_
  rw [get_rowAt, get_rowAt, if_pos (hused v hv), if_pos (hused' v hv)]

/-- A variable that is not read is NaN in every row. -/
theorem categorizeRows_eq_none {v : Variable} (hv : g.Observes v)
    (hunused : used.contains v = false) (h : t.observables used = .ok rows) :
    g.categorizeRows rows = List.replicate t.rows none := by
  have hnone : ∀ row, g.categorize? (t.rowAt used row) = none := by
    intro row
    refine Grid.categorize?_eq_none_of_isNaN hv ?_
    rw [get_rowAt, hunused, if_neg Bool.false_ne_true]
    decide
  rw [categorizeRows_of_observables h]
  simp [hnone]

/-- What can be read with some variables can be read with fewer. -/
theorem exists_observables_of_subset (hsub : ∀ v, used'.contains v = true → used.contains v = true)
    (h : t.observables used = .ok rows) : ∃ rows', t.observables used' = .ok rows' :=
  ⟨_, observables_eq_ok_iff.mpr ⟨fun v hv => (observables_eq_ok_iff.mp h).1 v (hsub v hv), rfl⟩⟩

end Table

/-! ## The variables of a configured grid -/

/-- Setting up a grid adds the variables of its axes to those in use, and no others. -/
theorem MixingConfig.contains_of_toGrid {c : MixingConfig} {g : Grid} {initial used : VariableSet}
    (h : c.toGrid initial = (.ok g, used)) (v : Variable) :
    used.contains v = true ↔ initial.contains v = true ∨ g.Observes v := by
  obtain ⟨b, hblueprint, hb⟩ := exists_toBlueprint h
  obtain ⟨made, hmade, rfl, rfl⟩ := registerAll_eq_ok_iff.mp hblueprint
  have haxes : g.axes.map (·.observable) = c.axes.map (·.observable) := by
    have hcalls := congrArg (List.map Registration.observable) (ofAxis_of_forall₂ hmade)
    rw [List.map_map, List.map_map] at hcalls
    rw [axes_of_build hb]
    exact hcalls
  rw [VariableSet.contains_foldl_markUsed, ← haxes, List.mem_map]
  rfl

/-- The category of an event depends on the variables of the axes alone. Whatever else is
read of a table makes no difference, and without one of these no row has a category.
Setting up a configured grid marks exactly these variables, and where more of them can be
read, they can be read with the same result. -/
theorem Grid.reads_axes_only (g : Grid) :
    (∀ values values' : Observables, (∀ v, g.Observes v → values.get v = values'.get v) →
      g.categorize? values = g.categorize? values' ∧
        g.binIndices? values = g.binIndices? values') ∧
    (∀ (t : Table) (used used' : VariableSet) (rows rows' : List Observables),
      used.Covers g → used'.Covers g →
      t.observables used = .ok rows → t.observables used' = .ok rows' →
      g.categorizeRows rows = g.categorizeRows rows') ∧
    (∀ (t : Table) (used : VariableSet) (rows : List Observables) (v : Variable),
      g.Observes v → used.contains v = false → t.observables used = .ok rows →
      g.categorizeRows rows = List.replicate t.rows none) ∧
    ∀ (c : MixingConfig) (marked : VariableSet), c.toGrid VariableSet.empty = (.ok g, marked) →
      (∀ v, marked.contains v = true ↔ g.Observes v) ∧
      ∀ (t : Table) (used : VariableSet) (rows : List Observables),
        used.Covers g → t.observables used = .ok rows →
        ∃ rows', t.observables marked = .ok rows' ∧
          g.categorizeRows rows' = g.categorizeRows rows := by
  refine ⟨fun values values' h => ⟨categorize?_congr h, binIndices?_congr h⟩,
    fun t used used' rows rows' hused hused' h h' =>
      Table.categorizeRows_eq_of_covers hused hused' h h',
    fun t used rows v hv hunused h => Table.categorizeRows_eq_none hv hunused h,
    fun c marked hgrid => ?_⟩
  have hmarked : ∀ v, marked.contains v = true ↔ g.Observes v := by
    intro v
    simp [MixingConfig.contains_of_toGrid hgrid v, VariableSet.contains_empty]
  refine ⟨hmarked, fun t used rows hused h => ?_⟩
  obtain ⟨rows', h'⟩ :=
    Table.exists_observables_of_subset (fun v hv => hused v ((hmarked v).mp hv)) h
  exact ⟨rows', h', Table.categorizeRows_eq_of_covers (fun v => (hmarked v).mpr) hused h' h⟩

/-- Two events with a vertex and an angle, of which `Grid.overlapping` looks at the vertex. -/
def Table.angled : Table where
  columns := [
    ⟨"psi2", .double [some ⟨0x3FF0000000000000⟩, none]⟩,
    ⟨"vtx_z", .double [some ⟨0x3FF0000000000000⟩, some ⟨0⟩]⟩]
  sized := by decide
  distinct := by decide

/-- Reading the angle as well changes nothing; read in place of the vertex, it leaves no
category. -/
theorem Grid.reads_axes_only_overlapping :
    ∃ rows rows' rows'',
      Table.angled.observables (VariableSet.empty.insert .vtxZ) = .ok rows ∧
      Table.angled.observables ((VariableSet.empty.insert .vtxZ).insert .psi2) = .ok rows' ∧
      Table.angled.observables (VariableSet.empty.insert .psi2) = .ok rows'' ∧
      rows ≠ rows' ∧ overlapping.categorizeRows rows = overlapping.categorizeRows rows' ∧
      overlapping.categorizeRows rows'' = [none, none] ∧
      MixingConfig.overlapping.toGrid VariableSet.empty
        = (.ok overlapping, VariableSet.empty.insert .vtxZ) ∧
      (∀ v, (VariableSet.empty.insert .vtxZ).contains v = true ↔ overlapping.Observes v) := by
  have hrows : Table.angled.observables (VariableSet.empty.insert .vtxZ)
      = .ok [.atOne, .ofPairs [(.vtxZ, ⟨0⟩)]] := by decide +kernel
  have hrows' : Table.angled.observables ((VariableSet.empty.insert .vtxZ).insert .psi2)
      = .ok [Observables.atOne.set .psi2 ⟨0x3FF0000000000000⟩, .ofPairs [(.vtxZ, ⟨0⟩)]] := by
    decide +kernel
  have hrows'' : Table.angled.observables (VariableSet.empty.insert .psi2)
      = .ok [.ofPairs [(.psi2, ⟨0x3FF0000000000000⟩)], .unset] := by decide +kernel
  have hgrid : MixingConfig.overlapping.toGrid VariableSet.empty
      = (.ok overlapping, VariableSet.empty.insert .vtxZ) := by decide +kernel
  obtain ⟨-, hsame, hnone, hmarks⟩ := Grid.reads_axes_only overlapping
  have hmarked := (hmarks _ _ hgrid).1
  have hcovers : (VariableSet.empty.insert .vtxZ).Covers overlapping :=
    fun v hv => (hmarked v).mpr hv
  have hcovers' : ((VariableSet.empty.insert .vtxZ).insert .psi2).Covers overlapping := by
    intro v hv
    rw [VariableSet.contains_insert, hcovers v hv, Bool.or_true]
  refine ⟨_, _, _, hrows, hrows', hrows'', by decide +kernel,
    hsame _ _ _ _ _ hcovers hcovers' hrows hrows', ?_, hgrid, hmarked⟩
  exact hnone _ _ _ .vtxZ ((hmarked .vtxZ).mp (by decide)) (by decide) hrows''

end EventMixing
