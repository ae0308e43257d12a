import Mathlib.Data.List.Forall2
import EventMixing.Config

/-!
# Runs of registrations

Axes are registered by calls of which any may fail. `Registration.perform` is one
call carried out in place, effect by effect: check the edges, append the axis, tell
the registry. `perform_cases` says all that it can do, and that it does what
`Blueprint.register` says: whole or not at all. `performAll_records` lifts this to
runs: blueprint and registry have taken in the calls that succeeded, in their order,
and nothing else. `performAll_all_or_nothing` reads off it what the axes, a log of
the announcements and a set of variables are after a run that starts with nothing.

A configuration is registered up to its first failure. Where there is none, the blueprint
has all of its axes and the registry has heard of each (`registerAll_eq_ok_iff`).
-/

namespace EventMixing

theorem Axis.eq_of_ofEdges {v : Variable} {edges : Array Double} {axis : Axis}
    (h : Axis.ofEdges v edges = .ok axis) : axis.observable = v ∧ axis.edges = edges := by
  unfold Axis.ofEdges at h
  split at h
  · cases h
  · split at h
    · cases h
    · split at h
      · cases h
      · obtain rfl := Except.ok.inj h
        exact ⟨rfl, rfl⟩

/-! ## Sets of variables -/

theorem Variable.index_getElem_all :
    ∀ (i : Nat) (hi : i < Variable.all.length), Variable.all[i].index.val = i := by
  decide

namespace VariableSet

theorem contains_foldl_markUsed (vs : List Variable) (s : VariableSet) (w : Variable) :
    (vs.foldl VariableRegistry.markUsed s).contains w = true ↔
      s.contains w = true ∨ w ∈ vs := by
  induction vs generalizing s with
  | nil => simp
  | cons v vs ih =>
      have hinsert : VariableRegistry.markUsed s v = s.insert v := rfl
      rw [List.foldl_cons, ih, hinsert, contains_insert, Bool.or_eq_true, decide_eq_true_eq,
        List.mem_cons, or_assoc, or_left_comm, @eq_comm _ v w]

/-- The members come in the order of declaration, and each of them once. -/
theorem toList_ascending (s : VariableSet) : s.toList.Pairwise (·.index < ·.index) :=
  List.Pairwise.filter _ (by decide)

theorem size_eq_length_toList (s : VariableSet) : s.size = s.toList.length := by
  have hmarks : Variable.all.map s.contains = s.marks.toList := by
    apply List.ext_getElem
    · simp [Variable.all]
    · intro i hi _
      have hindex := Variable.index_getElem_all i (by simpa using hi)
      simp [contains, Variable.entry, hindex]
  rw [size, toList, ← List.countP_eq_length_filter, ← Vector.count_toList, ← hmarks,
    List.count_eq_countP, List.countP_map]
  congr 1
  funext v
  simp

end VariableSet

/-! ## One call -/

section Calls

variable {ρ : Type} [VariableRegistry ρ]

theorem Blueprint.register_eq_ok_iff {b b' : Blueprint} {v : Variable} {edges : Array Double}
    {registry registry' : ρ} :
    b.register v edges registry = .ok (b', registry') ↔
      ∃ axis, Axis.ofEdges v edges = .ok axis ∧ b' = ⟨b.axes ++ [axis]⟩ ∧
        registry' = VariableRegistry.markUsed registry v := by
  unfold register
  cases Axis.ofEdges v edges with
  | ok axis => simp [eq_comm]
  | error e => simp

theorem Blueprint.register_eq_error_iff {b : Blueprint} {v : Variable} {edges : Array Double}
    {registry : ρ} {e : MixingError} :
    b.register v edges registry = .error e ↔ Axis.ofEdges v edges = .error e := by
  unfold register
  cases Axis.ofEdges v edges <;> simp

/-- A call to register an axis. -/
structure Registration where
  observable : Variable
  edges : Array Double
deriving DecidableEq

namespace Registration

/-- The call that an axis comes from. -/
def ofAxis (axis : Axis) : Registration := ⟨axis.observable, axis.edges⟩

/-- The call carried out in place: the edges are checked, the axis is appended, the
registry is told. -/
def perform (call : Registration) : ExceptT MixingError (StateM (Blueprint × ρ)) Unit := do
  let axis ← ExceptT.mk (pure (Axis.ofEdges call.observable call.edges))
  modify fun (b, registry) => (⟨b.axes ++ [axis]⟩, registry)
  modify fun (b, registry) => (b, VariableRegistry.markUsed registry call.observable)

/-- Calls carried out in place one after the other, whatever each of them answers. -/
def performAll (calls : List Registration) :
    StateM (Blueprint × ρ) (List (Except MixingError Unit)) :=
  calls.mapM fun call => call.perform.run

/-- A call registers its axis, or it fails and leaves everything as it was. -/
theorem perform_cases (call : Registration) (s : Blueprint × ρ) :
    (∃ s', s.1.register call.observable call.edges s.2 = .ok s' ∧
      call.perform.run.run s = (.ok (), s')) ∨
    (∃ e, s.1.register call.observable call.edges s.2 = .error e ∧
      call.perform.run.run s = (.error e, s)) := by
  unfold perform Blueprint.register
  cases Axis.ofEdges call.observable call.edges with
  | ok axis => exact Or.inl ⟨_, rfl, rfl⟩
  | error e => exact Or.inr ⟨e, rfl, rfl⟩

/-! ## Runs of calls -/

/-- The calls that were answered with success. -/
def accepted (calls : List Registration) (answers : List (Except MixingError Unit)) :
    List Registration :=
  ((calls.zip answers).filter (·.2.isOk)).map (·.1)

@[simp]
theorem accepted_cons_ok (call : Registration) (calls : List Registration)
    (answers : List (Except MixingError Unit)) :
    accepted (call :: calls) (.ok () :: answers) = call :: accepted calls answers := rfl

@[simp]
theorem accepted_cons_error (call : Registration) (calls : List Registration) (e : MixingError)
    (answers : List (Except MixingError Unit)) :
    accepted (call :: calls) (.error e :: answers) = accepted calls answers := rfl

theorem performAll_nil (s : Blueprint × ρ) : (performAll []).run s = ([], s) := rfl

theorem performAll_cons (call : Registration) (calls : List Registration) (s : Blueprint × ρ) :
    (performAll (call :: calls)).run s =
      ((call.perform.run.run s).1 :: ((performAll calls).run (call.perform.run.run s).2).1,
        ((performAll calls).run (call.perform.run.run s).2).2) := by
  rw [performAll, List.mapM_cons]
  rfl

/-- What a run has done by its end, given what its calls were answered. -/
structure Records (s : Blueprint × ρ) (calls : List Registration)
    (answers : List (Except MixingError Unit)) (s' : Blueprint × ρ) : Prop where
  length_eq : answers.length = calls.length
  axes_eq : s'.1.axes.map ofAxis = s.1.axes.map ofAxis ++ accepted calls answers
  registry_eq : s'.2 =
    ((accepted calls answers).map (·.observable)).foldl VariableRegistry.markUsed s.2

/-- A run takes in the calls that succeed, in their order, and nothing else. -/
theorem performAll_records {calls : List Registration} {s s' : Blueprint × ρ}
    {answers : List (Except MixingError Unit)} (h : (performAll calls).run s = (answers, s')) :
    Records s calls answers s' := by
  induction calls generalizing s answers with
  | nil =>
      rw [performAll_nil] at h
      obtain ⟨rfl, rfl⟩ := Prod.mk.injEq .. |>.mp h
      exact ⟨rfl, (List.append_nil _).symm, rfl⟩
  | cons call calls ih =>
      rw [performAll_cons] at h
      obtain ⟨rfl, hrest⟩ := Prod.mk.injEq .. |>.mp h
      rcases perform_cases call s with ⟨⟨b', registry'⟩, hregister, hrun⟩ | ⟨e, -, hrun⟩
      · obtain ⟨axis, haxis, rfl, rfl⟩ := Blueprint.register_eq_ok_iff.mp hregister
        have hcall : ofAxis axis = call := by
          obtain ⟨hobservable, hedges⟩ := Axis.eq_of_ofEdges haxis
          rw [ofAxis, hobservable, hedges]
        rw [hrun] at hrest ⊢
        have hrecords := ih (Prod.ext rfl hrest)
        refine ⟨congrArg (· + 1) hrecords.length_eq, ?_, hrecords.registry_eq⟩
        rw [hrecords.axes_eq, accepted_cons_ok, List.map_append, List.append_assoc,
          List.map_singleton, hcall, List.singleton_append]
      · -- the run goes on from where the failed call found it
        rw [hrun] at hrest ⊢
        have hrecords := ih (Prod.ext rfl hrest)
        refine ⟨congrArg (· + 1) hrecords.length_eq, ?_, hrecords.registry_eq⟩
        rw [hrecords.axes_eq, accepted_cons_error]

theorem foldl_markUsed_log (vs log : List Variable) :
    vs.foldl VariableRegistry.markUsed log = log ++ vs := by
  induction vs generalizing log with
  | nil => simp
  | cons v vs ih =>
      rw [List.foldl_cons, ih]
      exact List.append_assoc log [v] vs

/-- Each call does what registering does, or fails and changes nothing. So the axes
after a run are the calls that succeeded, in order and with the edges unchanged, and any
registry has heard of just these; a log has them one by one, and a set has the variables
of the axes. -/
theorem performAll_all_or_nothing (calls : List Registration) :
    (∀ (ρ : Type) [VariableRegistry ρ] (registry : ρ),
      (∀ (call : Registration) (s : Blueprint × ρ),
        (∃ s', s.1.register call.observable call.edges s.2 = .ok s' ∧
          call.perform.run.run s = (.ok (), s')) ∨
        (∃ e, s.1.register call.observable call.edges s.2 = .error e ∧
          call.perform.run.run s = (.error e, s))) ∧
      ∃ answers b registry',
        (performAll calls).run (.empty, registry) = (answers, b, registry') ∧
        answers.length = calls.length ∧
        b.axes.map ofAxis = accepted calls answers ∧
        registry' = ((accepted calls answers).map (·.observable)).foldl
          VariableRegistry.markUsed registry) ∧
    (∃ answers b log,
      (performAll calls).run (.empty, ([] : List Variable)) = (answers, b, log) ∧
      log = (accepted calls answers).map (·.observable)) ∧
    ∃ answers b used,
      (performAll calls).run (.empty, VariableSet.empty) = (answers, b, used) ∧
      (∀ v, used.contains v = true ↔ ∃ axis ∈ b.axes, axis.observable = v) ∧
      (∀ v, v ∈ used.toList ↔ used.contains v = true) ∧
      used.toList.Pairwise (·.index < ·.index) ∧
      used.size = used.toList.length := by
  refine ⟨fun ρ _ registry => ⟨perform_cases, ?_⟩, ?_, ?_⟩
  · rcases hrun : (performAll calls).run (Blueprint.empty, registry) with ⟨answers, b, registry'⟩
    have h := performAll_records hrun
    exact ⟨answers, b, registry', rfl, h.length_eq, h.axes_eq, h.registry_eq⟩
  · rcases hrun : (performAll calls).run (Blueprint.empty, ([] : List Variable)) with
      ⟨answers, b, log⟩
    have h := performAll_records hrun
    exact ⟨answers, b, log, rfl, h.registry_eq.trans (foldl_markUsed_log _ [])⟩
  · rcases hrun : (performAll calls).run (Blueprint.empty, VariableSet.empty) with
      ⟨answers, b, used⟩
    have h := performAll_records hrun
    refine ⟨answers, b, used, rfl, fun v => ?_, fun v => VariableSet.mem_toList,
      VariableSet.toList_ascending used, VariableSet.size_eq_length_toList used⟩
    have haxes : b.axes.map ofAxis = accepted calls answers := h.axes_eq
    have hused : used = ((accepted calls answers).map (·.observable)).foldl
        VariableRegistry.markUsed VariableSet.empty := h.registry_eq
    rw [hused, VariableSet.contains_foldl_markUsed, VariableSet.contains_empty, ← haxes,
      List.map_map, List.mem_map]
    simp [ofAxis]

/-- Of four calls the second has too few edges and the third has them in the wrong order. -/
example :
    ((performAll [⟨.vtxZ, #[⟨0⟩, ⟨0x3FF0000000000000⟩]⟩, ⟨.psi2, #[⟨0⟩]⟩,
      ⟨.centV0m, #[⟨0x3FF0000000000000⟩, ⟨0⟩]⟩, ⟨.vtxZ, #[⟨0⟩, ⟨0x4000000000000000⟩]⟩]).run
        (Blueprint.empty, ([] : List Variable))).2.2 = [.vtxZ, .vtxZ] := by
  decide +kernel

end Registration

/-! ## Configured axes -/

theorem Outcome.ofMixing_eq_ok_iff {α : Type} {result : Except MixingError α} {a : α} :
    Outcome.ofMixing result = .ok a ↔ result = .ok a := by
  cases result with
  | ok b =>
      show (Except.ok b : Outcome α) = .ok a ↔ _
      rw [Except.ok.injEq, Except.ok.injEq]
  | error e => exact iff_of_false nofun nofun

/-- The axis that is configured, or what is wrong with its edges. -/
def AxisConfig.axis (a : AxisConfig) : Except MixingError Axis :=
  Axis.ofEdges a.observable a.edges.toArray

/-- The call that registers a configured axis. -/
def AxisConfig.registration (a : AxisConfig) : Registration := ⟨a.observable, a.edges.toArray⟩

namespace MixingConfig

/-- How a configured axis is reported that is none, by its number from 1 on. -/
def invalidAxis (number : Nat) (a : AxisConfig) (e : MixingError) : Failure :=
  ⟨["Axis #" ++ toString number ++ " (" ++ a.observable.name ++ ") is invalid"], .mixing e⟩

section Steps

variable {b b' : Blueprint} {registry heard : ρ} {number : Nat} {first : AxisConfig}
  {axes rest : List AxisConfig}

theorem registerAll_cons_of_ok {axis : Axis} (h : first.axis = .ok axis) :
    registerAll b registry number (first :: rest) = registerAll ⟨b.axes ++ [axis]⟩
      (VariableRegistry.markUsed registry first.observable) (number + 1) rest := by
  have hregister : b.register first.observable first.edges.toArray registry
      = .ok (⟨b.axes ++ [axis]⟩, VariableRegistry.markUsed registry first.observable) :=
    Blueprint.register_eq_ok_iff.mpr ⟨axis, h, rfl, rfl⟩
  rw [registerAll, hregister]

theorem registerAll_cons_of_error {e : MixingError} (h : first.axis = .error e) :
    registerAll b registry number (first :: rest)
      = (.error (invalidAxis number first e), registry) := by
  have hregister : b.register first.observable first.edges.toArray registry = .error e :=
    Blueprint.register_eq_error_iff.mpr h
  rw [registerAll, hregister]
  rfl

/-- Registering succeeds where every configured axis is one. The blueprint then has them all
behind those it had, and the registry has heard of each. -/
theorem registerAll_eq_ok_iff :
    registerAll b registry number axes = (.ok b', heard) ↔
      ∃ made, List.Forall₂ (fun a axis => a.axis = .ok axis) axes made ∧
        b' = ⟨b.axes ++ made⟩ ∧
        heard = (axes.map (·.observable)).foldl VariableRegistry.markUsed registry := by
  induction axes generalizing b registry number with
  | nil =>
      simp only [registerAll, Prod.mk.injEq, Except.ok.injEq, List.forall₂_nil_left_iff,
        exists_eq_left, List.append_nil, List.map_nil, List.foldl_nil]
      exact and_congr eq_comm eq_comm
  | cons first rest ih =>
      cases hfirst : first.axis with
      | ok axis =>
          rw [registerAll_cons_of_ok hfirst, ih]
          simp only [List.forall₂_cons_left_iff, hfirst, Except.ok.injEq, List.append_assoc,
            List.singleton_append, List.map_cons, List.foldl_cons]
          constructor
          · rintro ⟨made, hmade, rfl, rfl⟩
            exact ⟨_, ⟨axis, made, rfl, hmade, rfl⟩, rfl, rfl⟩
          · rintro ⟨_, ⟨_, made, rfl, hmade, rfl⟩, rfl, rfl⟩
            exact ⟨made, hmade, rfl, rfl⟩
      | error e =>
          rw [registerAll_cons_of_error hfirst]
          refine iff_of_false (fun h => ?_) ?_
          · cases (Prod.mk.injEq .. |>.mp h).1
          · rintro ⟨made, hmade, -⟩
            obtain ⟨axis, _, hok, -⟩ := List.forall₂_cons_left_iff.mp hmade
            cases hfirst.symm.trans hok

end Steps

/-- The axes that are made of configured ones have their variables and edges. -/
theorem ofAxis_of_forall₂ {axes : List AxisConfig} {made : List Axis}
    (h : List.Forall₂ (fun a axis => a.axis = .ok axis) axes made) :
    made.map Registration.ofAxis = axes.map AxisConfig.registration := by
  induction h with
  | nil => rfl
  | cons hfirst _ ih =>
      obtain ⟨hobservable, hedges⟩ := Axis.eq_of_ofEdges hfirst
      rw [List.map_cons, List.map_cons, ih, Registration.ofAxis, hobservable, hedges,
        AxisConfig.registration]

theorem exists_toBlueprint {c : MixingConfig} {initial used : ρ} {g : Grid}
    (h : c.toGrid initial = (.ok g, used)) :
    ∃ b, c.toBlueprint initial = (.ok b, used) ∧ b.build = .ok g := by
  unfold toGrid at h
  split at h
  · rename_i b registry hblueprint
    obtain ⟨hbuild, rfl⟩ := Prod.mk.injEq .. |>.mp h
    exact ⟨b, hblueprint, Outcome.ofMixing_eq_ok_iff.mp hbuild⟩
  · cases h

/-- A configured grid is a built one. -/
theorem exists_build {c : MixingConfig} {initial used : ρ} {g : Grid}
    (h : c.toGrid initial = (.ok g, used)) : ∃ b : Blueprint, b.build = .ok g := by
  obtain ⟨b, -, hb⟩ := exists_toBlueprint h
  exact ⟨b, hb⟩

end MixingConfig

end Calls

end EventMixing
