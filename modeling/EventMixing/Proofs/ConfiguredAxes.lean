import EventMixing.Proofs.FirstFailure
import EventMixing.Proofs.Loading
import EventMixing.Proofs.Registration
import EventMixing.Proofs.Weights

/-!
# What a configuration makes

The axes of a configuration are registered in order up to the first that is none.
`registerAll_eq_error_iff` says what is left of that: the number and the variable of this
axis, what is wrong with its edges, and a registry that has heard of the axes before it.
Where each axis is one, registering them is making the calls one by one with success
(`registerAll_eq_ok_iff_performAll`).

Only then are the cells counted. So a configuration makes a grid exactly where its axes are
all axes and their bin counts multiply to less than a word can hold (`exists_toGrid_iff`);
too many cells are reported of axes that are all in order, and they are all marked
(`toGrid_eq_tooMany_iff`). A grid is warned of exactly where it has no axis (`after_setUp`).
-/

namespace EventMixing

namespace MixingConfig

/-- Every configured axis is one. -/
def Valid (c : MixingConfig) : Prop := ∀ a ∈ c.axes, ∃ axis, a.axis = .ok axis

/-- The number of cells of the configured axes, reckoned without bound. -/
def cells (c : MixingConfig) : Nat := (c.axes.map fun a => a.edges.length - 1).prod

/-- The registry once it has heard of the variables of axes, in their order. -/
def markAll {ρ : Type} [VariableRegistry ρ] (axes : List AxisConfig) (registry : ρ) : ρ :=
  (axes.map (·.observable)).foldl VariableRegistry.markUsed registry

section Registering

variable {ρ : Type} [VariableRegistry ρ] {b b' : Blueprint} {registry heard : ρ} {number : Nat}
  {axes : List AxisConfig} {c : MixingConfig} {f : Failure} {g : Grid}

/-! ## Up to the first failure -/

/-- Registering fails at the first configured axis that is none, which it names, and leaves
the registry as the axes before it have marked it. -/
theorem registerAll_eq_error_iff :
    registerAll b registry number axes = (.error f, heard) ↔
      ∃ before bad e, FailsFirst AxisConfig.axis axes before bad e ∧
        f = invalidAxis (number + before.length) bad e ∧ heard = markAll before registry := by
  induction axes generalizing b registry number with
  | nil =>
      refine iff_of_false (fun h => ?_) ?_
      · cases (Prod.mk.injEq .. |>.mp h).1
      · rintro ⟨_, _, _, hfirst, -⟩
        exact hfirst.not_nil
  | cons first rest ih =>
      cases hfirst : first.axis with
      | ok axis =>
          rw [registerAll_cons_of_ok hfirst, ih]
          simp only [FailsFirst.cons_iff_of_ok hfirst]
          -- the axis just registered is one more before the failure
          have hnumber : ∀ before : List AxisConfig,
              number + (first :: before).length = number + 1 + before.length := by
            intro before
            rw [List.length_cons]
            omega
          constructor
          · rintro ⟨before, bad, e, hfails, rfl, rfl⟩
            exact ⟨_, bad, e, ⟨before, rfl, hfails⟩, by rw [hnumber], rfl⟩
          · rintro ⟨_, bad, e, ⟨before, rfl, hfails⟩, rfl, rfl⟩
            exact ⟨before, bad, e, hfails, by rw [hnumber], rfl⟩
      | error e =>
          rw [registerAll_cons_of_error hfirst]
          simp only [FailsFirst.cons_iff_of_error hfirst, Prod.mk.injEq, Except.error.injEq]
          constructor
          · rintro ⟨rfl, rfl⟩
            exact ⟨[], first, e, ⟨rfl, rfl, rfl⟩, rfl, rfl⟩
          · rintro ⟨_, _, _, ⟨rfl, rfl, rfl⟩, rfl, rfl⟩
            exact ⟨rfl, rfl⟩

/-- Registering succeeds where the same calls, made one by one, all do, and then it does what
they do. -/
theorem registerAll_eq_ok_iff_performAll :
    registerAll b registry number axes = (.ok b', heard) ↔
      ∃ answers, (Registration.performAll (axes.map AxisConfig.registration)).run (b, registry)
          = (answers, b', heard) ∧ ∀ answer ∈ answers, answer = .ok () := by
  induction axes generalizing b registry number with
  | nil =>
      rw [List.map_nil, Registration.performAll_nil, registerAll]
      constructor
      · intro h
        obtain ⟨hb, rfl⟩ := Prod.mk.injEq .. |>.mp h
        obtain rfl := Except.ok.inj hb
        exact ⟨[], rfl, List.forall_mem_nil _⟩
      · rintro ⟨_, h, -⟩
        obtain ⟨-, hs⟩ := Prod.mk.injEq .. |>.mp h
        obtain ⟨rfl, rfl⟩ := Prod.mk.injEq .. |>.mp hs
        rfl
  | cons first rest ih =>
      rw [List.map_cons, Registration.performAll_cons]
      rcases Registration.perform_cases first.registration (b, registry) with
        ⟨s, hregister, hrun⟩ | ⟨e, hregister, hrun⟩
      · obtain ⟨axis, haxis, hs, hs'⟩ := Blueprint.register_eq_ok_iff.mp hregister
        obtain rfl : s = (⟨b.axes ++ [axis]⟩, VariableRegistry.markUsed registry first.observable) :=
          Prod.ext hs hs'
        rw [hrun, registerAll_cons_of_ok haxis, ih]
        constructor
        · rintro ⟨answers, hanswers, hok⟩
          exact ⟨.ok () :: answers, by rw [hanswers], List.forall_mem_cons.mpr ⟨rfl, hok⟩⟩
        · rintro ⟨_, hanswers, hok⟩
          obtain ⟨rfl, hs⟩ := Prod.mk.injEq .. |>.mp hanswers
          exact ⟨_, Prod.ext rfl hs, (List.forall_mem_cons.mp hok).2⟩
      · have haxis : first.axis = .error e := Blueprint.register_eq_error_iff.mp hregister
        rw [hrun, registerAll_cons_of_error haxis]
        refine iff_of_false (fun h => ?_) ?_
        · cases (Prod.mk.injEq .. |>.mp h).1
        · rintro ⟨_, hanswers, hok⟩
          obtain ⟨rfl, -⟩ := Prod.mk.injEq .. |>.mp hanswers
          cases (List.forall_mem_cons.mp hok).1

/-! ## Valid configurations -/

theorem exists_made_iff :
    (∃ made, List.Forall₂ (fun a axis => a.axis = .ok axis) axes made) ↔
      ∀ a ∈ axes, ∃ axis, a.axis = .ok axis := by
  induction axes with
  | nil => simp
  | cons first rest ih =>
      rw [List.forall_mem_cons, ← ih]
      simp only [List.forall₂_cons_left_iff]
      constructor
      · rintro ⟨_, axis, made, hfirst, hrest, -⟩
        exact ⟨⟨axis, hfirst⟩, made, hrest⟩
      · rintro ⟨⟨axis, hfirst⟩, made, hrest⟩
        exact ⟨_, axis, made, hfirst, hrest, rfl⟩

theorem cellCount_of_forall₂ {made : List Axis}
    (h : List.Forall₂ (fun a axis => a.axis = .ok axis) axes made) :
    cellCount made = (axes.map fun a => a.edges.length - 1).prod := by
  induction h with
  | nil => rfl
  | @cons a axis _ _ hfirst _ ih =>
      have hcount : axis.binCount = a.edges.length - 1 := by
        rw [Axis.binCount, (Axis.eq_of_ofEdges hfirst).2, List.size_toArray]
      rw [cellCount_cons, ih, hcount, List.map_cons, List.prod_cons, Nat.mul_comm]

theorem toBlueprint_eq_ok_iff :
    c.toBlueprint registry = (.ok b, heard) ↔
      List.Forall₂ (fun a axis => a.axis = .ok axis) c.axes b.axes ∧
        heard = markAll c.axes registry := by
  rw [toBlueprint, registerAll_eq_ok_iff]
  constructor
  · rintro ⟨made, hmade, rfl, rfl⟩
    exact ⟨hmade, rfl⟩
  · rintro ⟨hmade, rfl⟩
    exact ⟨b.axes, hmade, rfl, rfl⟩

theorem exists_toBlueprint_iff : (∃ b heard, c.toBlueprint registry = (.ok b, heard)) ↔ c.Valid := by
  simp only [toBlueprint_eq_ok_iff, exists_and_left, exists_eq, and_true]
  rw [Valid, ← exists_made_iff]
  exact ⟨fun ⟨b, h⟩ => ⟨b.axes, h⟩, fun ⟨made, h⟩ => ⟨⟨made⟩, h⟩⟩

theorem toBlueprint_eq_error_iff :
    c.toBlueprint registry = (.error f, heard) ↔
      ∃ before bad e, FailsFirst AxisConfig.axis c.axes before bad e ∧
        f = invalidAxis (before.length + 1) bad e ∧ heard = markAll before registry := by
  rw [toBlueprint, registerAll_eq_error_iff]
  simp only [Nat.add_comm 1]

/-! ## The grid -/

theorem toGrid_of_toBlueprint (h : c.toBlueprint registry = (.ok b, heard)) :
    c.toGrid registry = (.ofMixing b.build, heard) := by
  rw [toGrid, h]

theorem toGrid_of_toBlueprint_error (h : c.toBlueprint registry = (.error f, heard)) :
    c.toGrid registry = (.error f, heard) := by
  rw [toGrid, h]

/-- The grid is that of the same calls made one by one. -/
theorem toGrid_eq_ok_iff_performAll :
    c.toGrid registry = (.ok g, heard) ↔
      ∃ answers b, (Registration.performAll (c.axes.map AxisConfig.registration)).run
          (.empty, registry) = (answers, b, heard) ∧
        (∀ answer ∈ answers, answer = .ok ()) ∧ b.build = .ok g := by
  constructor
  · intro h
    obtain ⟨b, hblueprint, hbuild⟩ := exists_toBlueprint h
    obtain ⟨answers, hanswers, hok⟩ := registerAll_eq_ok_iff_performAll.mp hblueprint
    exact ⟨answers, b, hanswers, hok, hbuild⟩
  · rintro ⟨answers, b, hanswers, hok, hbuild⟩
    have hblueprint : c.toBlueprint registry = (.ok b, heard) :=
      registerAll_eq_ok_iff_performAll.mpr ⟨answers, hanswers, hok⟩
    rw [toGrid_of_toBlueprint hblueprint, hbuild]
    rfl

/-- What a valid configuration comes to is that its axes are frozen. -/
theorem exists_toGrid_of_valid (h : c.Valid) (registry : ρ) :
    ∃ b : Blueprint, cellCount b.axes = c.cells ∧
      c.toGrid registry = (.ofMixing b.build, markAll c.axes registry) := by
  obtain ⟨b, heard, hb⟩ : ∃ b heard, c.toBlueprint registry = (.ok b, heard) :=
    exists_toBlueprint_iff.mpr h
  obtain ⟨hmade, rfl⟩ := toBlueprint_eq_ok_iff.mp hb
  exact ⟨b, cellCount_of_forall₂ hmade, toGrid_of_toBlueprint hb⟩

/-- Too many cells are reported of valid configurations only, once all variables are marked. -/
theorem toGrid_eq_tooMany_iff :
    c.toGrid registry = (.error ⟨[], .mixing .tooManyCategories⟩, heard) ↔
      c.Valid ∧ UInt64.size ≤ c.cells ∧ heard = markAll c.axes registry := by
  constructor
  · intro h
    rcases hblueprint : c.toBlueprint registry with ⟨o, heard'⟩
    cases o with
    | error f =>
        -- what is wrong with an axis is reported with the axis
        rw [toGrid_of_toBlueprint_error hblueprint] at h
        obtain ⟨before, bad, e, -, hf, -⟩ := toBlueprint_eq_error_iff.mp hblueprint
        rw [hf] at h
        cases (Prod.mk.injEq .. |>.mp h).1
    | ok b =>
        rw [toGrid_of_toBlueprint hblueprint] at h
        obtain ⟨hbuild, rfl⟩ := Prod.mk.injEq .. |>.mp h
        obtain ⟨hmade, rfl⟩ := toBlueprint_eq_ok_iff.mp hblueprint
        refine ⟨exists_toBlueprint_iff.mp ⟨b, _, hblueprint⟩, ?_, rfl⟩
        rw [cells, ← cellCount_of_forall₂ hmade, ← Blueprint.build_eq_error_iff]
        cases hresult : b.build with
        | ok g =>
            rw [hresult] at hbuild
            cases hbuild
        | error e =>
            rw [hresult] at hbuild
            obtain rfl := Cause.mixing.inj (congrArg Failure.cause (Except.error.inj hbuild))
            rfl
  · rintro ⟨hvalid, hmany, rfl⟩
    obtain ⟨b, hcells, hgrid⟩ := exists_toGrid_of_valid hvalid registry
    rw [hgrid, Blueprint.build_eq_error_iff.mpr (hcells ▸ hmany)]
    rfl

theorem exists_toGrid_iff :
    (∃ g heard, c.toGrid registry = (.ok g, heard)) ↔ c.Valid ∧ c.cells < UInt64.size := by
  constructor
  · rintro ⟨g, heard, h⟩
    obtain ⟨b, hblueprint, hbuild⟩ := exists_toBlueprint h
    have hvalid : c.Valid := exists_toBlueprint_iff.mp ⟨b, heard, hblueprint⟩
    refine ⟨hvalid, Nat.lt_of_not_le fun hmany => ?_⟩
    have hfails : c.toGrid registry = (.error ⟨[], .mixing .tooManyCategories⟩, _) :=
      toGrid_eq_tooMany_iff.mpr ⟨hvalid, hmany, rfl⟩
    cases (Prod.mk.injEq .. |>.mp (h.symm.trans hfails)).1
  · rintro ⟨hvalid, hfits⟩
    obtain ⟨b, hcells, hgrid⟩ := exists_toGrid_of_valid hvalid registry
    obtain ⟨g, hbuild⟩ := Blueprint.exists_build (hcells ▸ hfits)
    exact ⟨g, _, by rw [hgrid, hbuild]; rfl⟩

/-! ## The warning -/

/-- A grid without axes comes of a configuration without axes, and of no other. -/
theorem isEmpty_of_toGrid (h : c.toGrid registry = (.ok g, heard)) :
    g.isEmpty = true ↔ c.axes = [] := by
  obtain ⟨b, hblueprint, hbuild⟩ := exists_toBlueprint h
  obtain ⟨hmade, -⟩ := toBlueprint_eq_ok_iff.mp hblueprint
  rw [Grid.isEmpty, List.isEmpty_iff, places_eq_nil_iff hbuild, ← List.length_eq_zero_iff,
    ← hmade.length_eq, List.length_eq_zero_iff]

theorem warning_toGrid :
    warning (c.toGrid registry).1 = if c.axes = [] then emptyGridWarning else "" := by
  rcases hgrid : c.toGrid registry with ⟨o, heard⟩
  cases o with
  | ok g => simp only [warning, isEmpty_of_toGrid hgrid]
  | error f =>
      -- a configuration without axes does not fail
      rw [if_neg]
      · rfl
      · intro hnil
        have hempty : c.toGrid registry = (.ok ⟨[], 0, Blueprint.lastPositions []⟩, registry) := by
          rw [toGrid, toBlueprint, hnil]
          rfl
        cases (Prod.mk.injEq .. |>.mp (hempty.symm.trans hgrid)).1

end Registering

/-- Setting up a grid prints a warning where there is no axis, and nothing else. -/
theorem after_setUp (w : World) (c : MixingConfig) :
    Command.after w c.setUp = if c.axes = [] then w.print .errors emptyGridWarning else w := by
  have hwarning : warning (c.toGrid VariableSet.empty).1
      = if c.axes = [] then emptyGridWarning else "" := warning_toGrid
  have hafter : Command.after w c.setUp =
      if (warning (c.toGrid VariableSet.empty).1).isEmpty then w
      else w.print .errors (warning (c.toGrid VariableSet.empty).1) := by
    unfold MixingConfig.setUp
    split
    rename_i grid used heq
    dsimp only
    rw [heq]
    split
    · cases grid <;> rfl
    · cases grid <;> rfl
  rw [hafter, hwarning]
  by_cases hnil : c.axes = []
  · rw [if_pos hnil, if_pos hnil, if_neg (by decide)]
  · rw [if_neg hnil, if_neg hnil, if_pos (by decide)]

theorem markAll_log (axes : List AxisConfig) :
    markAll axes ([] : List Variable) = axes.map (·.observable) :=
  Registration.foldl_markUsed_log _ []

/-- A configuration makes a blueprint where each of its axes is one, and it then has these
axes in order, all of them marked. Else the failure names the first axis that is none, by its
number and its variable, with what is wrong with its edges, and just the axes before it are
marked. Such a failure is the grid's too. A valid configuration may still have too many
cells, and then all axes are marked; with fewer it makes the grid that calls for the axes one
by one make. Only a grid without axes is warned of. -/
theorem fails_at_first_culprit (c : MixingConfig) :
    (∀ (ρ : Type) [VariableRegistry ρ] (registry : ρ),
      ((∃ b heard, c.toBlueprint registry = (.ok b, heard)) ↔
        ∀ a ∈ c.axes, ∃ axis, Axis.ofEdges a.observable a.edges.toArray = .ok axis) ∧
      (∀ b heard, c.toBlueprint registry = (.ok b, heard) →
        b.axes.map Registration.ofAxis = c.axes.map AxisConfig.registration ∧
          heard = markAll c.axes registry) ∧
      (∀ f heard, c.toBlueprint registry = (.error f, heard) ↔
        ∃ before bad e, FailsFirst AxisConfig.axis c.axes before bad e ∧
          f = ⟨["Axis #" ++ toString (before.length + 1) ++ " (" ++ bad.observable.name
            ++ ") is invalid"], .mixing e⟩ ∧
          heard = markAll before registry) ∧
      (∀ f heard, c.toBlueprint registry = (.error f, heard) →
        c.toGrid registry = (.error f, heard)) ∧
      (∀ heard, c.toGrid registry = (.error ⟨[], .mixing .tooManyCategories⟩, heard) ↔
        c.Valid ∧ UInt64.size ≤ c.cells ∧ heard = markAll c.axes registry) ∧
      ((∃ g heard, c.toGrid registry = (.ok g, heard)) ↔ c.Valid ∧ c.cells < UInt64.size) ∧
      ∀ g heard, c.toGrid registry = (.ok g, heard) ↔
        ∃ answers b, (Registration.performAll (c.axes.map AxisConfig.registration)).run
            (.empty, registry) = (answers, b, heard) ∧
          (∀ answer ∈ answers, answer = .ok ()) ∧ b.build = .ok g) ∧
    (∀ axes, markAll axes ([] : List Variable) = axes.map (·.observable)) ∧
    ∀ w, Command.after w c.setUp =
      if c.axes = [] then w.print .errors emptyGridWarning else w := by
  refine ⟨fun ρ _ registry => ⟨exists_toBlueprint_iff, fun b heard h => ?_,
    fun f heard => toBlueprint_eq_error_iff, fun f heard => toGrid_of_toBlueprint_error,
    fun heard => toGrid_eq_tooMany_iff, exists_toGrid_iff,
    fun g heard => toGrid_eq_ok_iff_performAll⟩, markAll_log, fun w => after_setUp w c⟩
  obtain ⟨hmade, rfl⟩ := toBlueprint_eq_ok_iff.mp h
  exact ⟨ofAxis_of_forall₂ hmade, rfl⟩

/-- An axis of two bins. -/
def twoBins : AxisConfig := ⟨.vtxZ, [⟨0⟩, ⟨0x3FF0000000000000⟩, ⟨0x4000000000000000⟩]⟩

/-- Two configured axes that are none, behind one that is. -/
def twoFaults : MixingConfig := ⟨[twoBins, ⟨.psi2, [⟨0⟩, ⟨0⟩]⟩, ⟨.vtxX, []⟩], none⟩

/-- One axis of two bins too many for a word. -/
def crowded : MixingConfig := ⟨List.replicate 64 twoBins, none⟩

/-- Of two faults the first is named, and that there are too many cells is no axis's fault.
Where there is no axis, the warning says so. -/
theorem fails_at_first_culprit_twoBins :
    (∃ f, twoFaults.toGrid ([] : List Variable) = (.error f, [.vtxZ]) ∧
      f.chain = "Axis #2 (psi2) is invalid: Variable 'psi2' bin edges must be strictly ascending"
        ++ " (violated at position 1)") ∧
      crowded.toGrid ([] : List Variable)
        = (.error ⟨[], .mixing .tooManyCategories⟩, List.replicate 64 .vtxZ) ∧
      (∃ b, (⟨[twoBins], none⟩ : MixingConfig).toBlueprint ([] : List Variable)
        = (.ok b, [.vtxZ]) ∧ b.axes.map Registration.ofAxis = [twoBins.registration]) ∧
      ∀ w, Command.after w (⟨[], none⟩ : MixingConfig).setUp = w.print .errors
        "Warning: mixing config has no axes, every event will be rejected\n" := by
  have htwo : ∃ axis, twoBins.axis = .ok axis :=
    ⟨⟨.vtxZ, twoBins.edges.toArray, by decide, by decide,
      fun i hi => Axis.ascending_of_pairwise (by decide) i _ hi⟩, by decide +kernel⟩
  have hfirst : FailsFirst AxisConfig.axis twoFaults.axes [twoBins] ⟨.psi2, [⟨0⟩, ⟨0⟩]⟩
      (.unsortedEdges .psi2 1) :=
    ⟨⟨[⟨.vtxX, []⟩], rfl⟩, List.forall_mem_singleton.mpr htwo, by decide +kernel⟩
  have hmany : UInt64.size ≤ crowded.cells := by
    rw [cells, crowded, List.map_replicate, List.prod_replicate]
    decide
  obtain ⟨-, -, herror, hpasses, -⟩ := (fails_at_first_culprit twoFaults).1 (List Variable) []
  obtain ⟨-, -, -, -, htooMany, -⟩ := (fails_at_first_culprit crowded).1 (List Variable) []
  obtain ⟨hok, haxes, -⟩ := (fails_at_first_culprit ⟨[twoBins], none⟩).1 (List Variable) []
  obtain ⟨b, heard, hb⟩ := hok.mpr (List.forall_mem_singleton.mpr htwo)
  obtain ⟨hmade, rfl⟩ := haxes b heard hb
  refine ⟨⟨_, hpasses _ _ ((herror _ _).mpr ⟨_, _, _, hfirst, rfl, rfl⟩), by decide +kernel⟩,
    (htooMany _).mpr ⟨fun a ha => ?_, hmany, ?_⟩, ⟨b, hb, hmade⟩,
    (fails_at_first_culprit ⟨[], none⟩).2.2⟩
  · exact List.eq_of_mem_replicate ha ▸ htwo
  · rw [markAll_log, crowded, List.map_replicate]
    rfl

end MixingConfig

end EventMixing
