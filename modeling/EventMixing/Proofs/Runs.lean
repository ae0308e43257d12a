import EventMixing.Proofs.Loading
import EventMixing.Proofs.Locations
import EventMixing.Proofs.Saving
import EventMixing.Proofs.Window

/-!
# Runs over a table

All that a run does before it saves only reads, so it can be reckoned step by step in the
world it starts in. `CommandLine.Stopped` lists what may stop a run on the way, with the
failure that it then comes to; if nothing does, the run `Reaches` saving a table and the
pairs of a pooling. That is decided in two steps, for the plan of the run
(`CommandLine.unplanned_or_planned`) and for the run over the planned table
(`RunPlan.stops_or_reaches`). No depth that gets into a plan is zero, so pools that keep
nothing are never the reason.
-/

namespace EventMixing

open Command (outcome attempts course)

/-! ## Before saving, a run only reads -/

namespace Command.ReadsOnly

theorem need {α : Type} (what : Option α) (reason : String) :
    ReadsOnly (CommandLine.need what reason) := by
  cases what with
  | none => exact .ofOutcome _
  | some a => exact .pure a

theorem plan (c : CommandLine) : ReadsOnly c.plan :=
  .bind (.need _ _) fun _ => .bind (.need _ _) fun _ => .bind (.need _ _) fun _ =>
    .bind (.loadConfig _) fun _ => .bind (.setUp _) fun _ => .pure _

theorem loadStep (plan : RunPlan) : ReadsOnly plan.loadStep :=
  .bind (.loadEvents _ _ _) fun _ => .bind (.printed _) fun _ => .pure _

theorem categorizeStep (plan : RunPlan) (t : Table) : ReadsOnly (plan.categorizeStep t) := by
  refine .bind (.ofOutcome _) fun _ => ?_
  dsimp only
  split
  · exact .pure _
  · exact .bind (.printed _) fun _ => .pure _

theorem mixStep (plan : RunPlan) (categories : List (Option UInt64)) :
    ReadsOnly (plan.mixStep categories) :=
  .bind (.ofOutcome _) fun _ => .bind (.printed _) fun _ => .pure _

theorem timedStep {α : Type} {step : Command α} (h : ReadsOnly step) (number : Nat)
    (title : String) : ReadsOnly (timedStep number title step) :=
  .bind (.printed _) fun _ => .bind .now fun _ => .bind h fun _ =>
    .bind (.bind .now fun _ => .pure _) fun _ => .bind (.printed _) fun _ => .pure _

end Command.ReadsOnly

/-! ## Steps of a run -/

section Courses

variable {α : Type} (w : World)

theorem course_timedStep (number : Nat) (title : String) (step : Command α) :
    ∃ elapsed, course w (timedStep number title step) =
      ((outcome w step).map (·, elapsed), attempts w step) := by
  refine ⟨⟨(Command.after w step).clock - w.clock⟩, ?_⟩
  -- printing the heading and looking at the clock are steps of their own
  have hstart : course w (timedStep number title step) = course w (do
      let a ← step
      let elapsed ← elapsedSince w.clock
      Command.printed (Console.stepTime elapsed)
      return (a, elapsed)) := by
    rw [timedStep, Command.course_bind_of_readsOnly (.printed _)]
    exact Command.course_bind_of_readsOnly .now w _
  rw [hstart, Command.course_bind]
  cases outcome w step with
  | ok a => exact congrArg (Prod.mk _) (List.append_nil _)
  | error e => rfl

theorem outcome_loadStep (plan : RunPlan) :
    outcome w plan.loadStep = outcome w (Table.loadEvents plan.input plan.used plan.inferRows) := by
  rw [RunPlan.loadStep, Command.outcome_bind_of_readsOnly (.loadEvents ..)]
  cases outcome w (Table.loadEvents plan.input plan.used plan.inferRows) <;> rfl

theorem outcome_categorizeStep (plan : RunPlan) (t : Table) :
    outcome w (plan.categorizeStep t) = t.categorize plan.grid plan.used := by
  rw [RunPlan.categorizeStep, Command.outcome_bind_of_readsOnly (.ofOutcome _),
    Command.outcome_ofOutcome]
  cases t.categorize plan.grid plan.used with
  | error f => rfl
  | ok result =>
      dsimp only
      split <;> rfl

theorem outcome_mixStep (plan : RunPlan) (categories : List (Option UInt64)) :
    outcome w (plan.mixStep categories) = RunPlan.pool categories plan.depth := by
  rw [RunPlan.mixStep, Command.outcome_bind_of_readsOnly (.ofOutcome _),
    Command.outcome_ofOutcome]
  cases RunPlan.pool categories plan.depth <;> rfl

section TimedStep

variable {β : Type} {step : Command α} (h : Command.ReadsOnly step) (number : Nat)
  (title : String) (f : α × Duration → Command β)

include h

theorem course_timedStep_of_error {e : Failure} (hstep : outcome w step = .error e) :
    course w (timedStep number title step >>= f) = (.error e, []) := by
  obtain ⟨elapsed, htimed⟩ := course_timedStep w number title step
  rw [hstep, h.attempts_eq_nil] at htimed
  exact Command.course_bind_of_error htimed f

/-- After a timed step that only reads, a run goes on with what the step comes to. -/
theorem course_timedStep_of_ok {a : α} (hstep : outcome w step = .ok a) :
    ∃ elapsed, course w (timedStep number title step >>= f) = course w (f (a, elapsed)) := by
  obtain ⟨elapsed, htimed⟩ := course_timedStep w number title step
  rw [hstep, h.attempts_eq_nil] at htimed
  obtain ⟨houtcome, -⟩ := Prod.mk.inj htimed
  refine ⟨elapsed, ?_⟩
  rw [Command.course_bind_of_readsOnly (h.timedStep number title), houtcome]
  rfl

end TimedStep

/-- A step that is followed by printing only comes to what it comes to by itself. -/
theorem course_lastStep (number : Nat) (title : String) (step : Command Unit)
    {f : Unit × Duration → Command Unit}
    (hf : ∀ elapsed, ∃ text, f ((), elapsed) = Command.printed text) :
    course w (timedStep number title step >>= f) = course w step := by
  obtain ⟨elapsed, htimed⟩ := course_timedStep w number title step
  obtain ⟨text, htext⟩ := hf elapsed
  cases houtcome : outcome w step with
  | error e =>
      rw [houtcome] at htimed
      rw [Command.course_bind_of_error htimed, course, houtcome]
  | ok u =>
      rw [houtcome] at htimed
      rw [Command.course_bind_of_ok htimed, course, houtcome, htext]
      exact congrArg (Prod.mk _) (List.append_nil _)

end Courses


/-! ## From a plan to saving -/

namespace RunPlan

/-- Why a run over a planned table stops before it comes to saving. -/
inductive Stops (plan : RunPlan) (w : World) : Failure → Prop
  /-- The input is of no supported format or cannot be read. -/
  | unreadable {f : Failure} (h : outcome w (Table.load plan.input plan.inferRows) = .error f) :
      Stops plan w f
  /-- A variable in use has no column. -/
  | columnMissing {t : Table} {f : Failure}
      (ht : outcome w (Table.load plan.input plan.inferRows) = .ok t)
      (h : t.checkColumns plan.used = .error f) : Stops plan w f
  /-- A column of a variable in use holds no numbers. -/
  | notNumeric {t : Table} {f : Failure}
      (ht : outcome w (Table.load plan.input plan.inferRows) = .ok t)
      (hchecked : t.checkColumns plan.used = .ok ())
      (h : t.categorize plan.grid plan.used = .error f) : Stops plan w f

/-- The run comes to saving a table, `t'`, and the pairs of a pooling. -/
structure Reaches (plan : RunPlan) (w : World) (t' : Table) (pooling : Pooling) : Prop where
  exists_categories : ∃ t categories,
    outcome w (Table.load plan.input plan.inferRows) = .ok t ∧
      t.checkColumns plan.used = .ok () ∧
      t.categorize plan.grid plan.used = .ok (categories, t') ∧
      Pooling.ofCategories categories plan.depth = .ok pooling

theorem Reaches.unique {plan : RunPlan} {w : World} {t t' : Table} {pooling pooling' : Pooling}
    (h : plan.Reaches w t pooling) (h' : plan.Reaches w t' pooling') :
    t = t' ∧ pooling = pooling' := by
  obtain ⟨t₀, categories, hload, -, hcategorize, hpool⟩ := h.exists_categories
  obtain ⟨t₀', categories', hload', -, hcategorize', hpool'⟩ := h'.exists_categories
  obtain rfl := Except.ok.inj (hload.symm.trans hload')
  obtain ⟨rfl, rfl⟩ := Prod.mk.inj (Except.ok.inj (hcategorize.symm.trans hcategorize'))
  exact ⟨rfl, Except.ok.inj (hpool.symm.trans hpool')⟩

theorem stops_or_reaches (w : World) {plan : RunPlan} (hpos : 0 < plan.depth) :
    (∃ f, plan.Stops w f) ∨ ∃ t pooling, plan.Reaches w t pooling := by
  cases hload : outcome w (Table.load plan.input plan.inferRows) with
  | error f => exact Or.inl ⟨f, .unreadable hload⟩
  | ok t =>
      cases hchecked : t.checkColumns plan.used with
      | error f => exact Or.inl ⟨f, .columnMissing hload hchecked⟩
      | ok u =>
          cases hcategorize : t.categorize plan.grid plan.used with
          | error f => exact Or.inl ⟨f, .notNumeric hload hchecked hcategorize⟩
          | ok result =>
              obtain ⟨s, hs, -⟩ := Pooling.exists_ofCategories result.1 hpos
              exact Or.inr ⟨result.2, s.outcome, t, result.1, hload, hchecked, hcategorize, hs⟩

theorem Stops.sparesDepth {plan : RunPlan} {w : World} {f : Failure} (h : plan.Stops w f) :
    f.cause ≠ .mixing .zeroPoolDepth := by
  cases h with
  | unreadable h => exact load_sparesDepth w _ _ f h
  | columnMissing _ h => exact checkColumns_sparesDepth _ _ f h
  | notNumeric _ _ h => exact categorize_sparesDepth _ _ _ f h

section Perform

variable {w : World} {plan : RunPlan}

theorem course_perform_of_error {f : Failure}
    (h : outcome w (Table.loadEvents plan.input plan.used plan.inferRows) = .error f) :
    course w plan.perform = (.error f, []) :=
  (Command.course_bind_of_readsOnly (.printed _) w _).trans
    (course_timedStep_of_error w (.loadStep plan) 1 "Load Events" _
      ((outcome_loadStep w plan).trans h))

theorem course_perform_of_categorize_error {t : Table} {f : Failure}
    (ht : outcome w (Table.loadEvents plan.input plan.used plan.inferRows) = .ok t)
    (h : t.categorize plan.grid plan.used = .error f) :
    course w plan.perform = (.error f, []) := by
  obtain ⟨loadTime, hloaded⟩ := course_timedStep_of_ok w (.loadStep plan) 1 "Load Events" _
    ((outcome_loadStep w plan).trans ht)
  have hbanner : course w plan.perform = course w _ :=
    Command.course_bind_of_readsOnly (.printed _) w _
  exact (hbanner.trans hloaded).trans
    (course_timedStep_of_error w (.categorizeStep plan t) 2 "Categorize Events" _
      ((outcome_categorizeStep w plan t).trans h))

/-- A run over a table that can be categorized comes to what saving comes to. -/
theorem course_perform_of_ok {t t' : Table} {categories : List (Option UInt64)}
    {pooling : Pooling}
    (ht : outcome w (Table.loadEvents plan.input plan.used plan.inferRows) = .ok t)
    (hcategorize : t.categorize plan.grid plan.used = .ok (categories, t'))
    (hpool : pool categories plan.depth = .ok pooling) :
    course w plan.perform = course w (plan.saveStep t' pooling) := by
  obtain ⟨loadTime, hloaded⟩ := course_timedStep_of_ok w (.loadStep plan) 1 "Load Events" _
    ((outcome_loadStep w plan).trans ht)
  obtain ⟨categorizeTime, hcategorized⟩ := course_timedStep_of_ok w (.categorizeStep plan t) 2
    "Categorize Events" _ ((outcome_categorizeStep w plan t).trans hcategorize)
  obtain ⟨mixingTime, hmixed⟩ := course_timedStep_of_ok w (.mixStep plan categories) 3
    "Event Mixing" _ ((outcome_mixStep w plan categories).trans hpool)
  have hbanner : course w plan.perform = course w _ :=
    Command.course_bind_of_readsOnly (.printed _) w _
  exact (((hbanner.trans hloaded).trans hcategorized).trans hmixed).trans
    (course_lastStep w 4 "Save Results" _ fun _ => ⟨_, rfl⟩)

theorem course_perform_of_stops {f : Failure} (h : plan.Stops w f) :
    course w plan.perform = (.error f, []) := by
  cases h with
  | unreadable h =>
      exact course_perform_of_error (by rw [outcome_loadEvents, h]; rfl)
  | columnMissing ht h =>
      exact course_perform_of_error (by rw [outcome_loadEvents, ht, Except.bind, h]; rfl)
  | notNumeric ht hchecked h =>
      exact course_perform_of_categorize_error
        (by rw [outcome_loadEvents, ht, Except.bind, hchecked]; rfl) h

theorem course_perform_of_reaches {t : Table} {pooling : Pooling}
    (h : plan.Reaches w t pooling) :
    course w plan.perform = course w (plan.saveStep t pooling) := by
  obtain ⟨t₀, categories, ht, hchecked, hcategorize, hpool⟩ := h.exists_categories
  exact course_perform_of_ok (by rw [outcome_loadEvents, ht, Except.bind, hchecked]; rfl)
    hcategorize (by rw [pool, hpool]; rfl)

end Perform

end RunPlan

/-! ## From a command line to a plan -/

namespace CommandLine

/-- Why a run has no plan. -/
inductive Unplanned (c : CommandLine) (w : World) : Failure → Prop
  | noInput (h : c.input = none) :
      Unplanned c w ⟨[], .refused "Input file is required. Use -i/--input to specify a file."⟩
  | noConfig {input : Path} (hinput : c.input = some input) (h : c.config = none) :
      Unplanned c w
        ⟨[], .refused "Binning config is required. Use -c/--config to specify a JSON file."⟩
  /-- The configuration cannot be read, is no text of one, or asks for a depth of zero. -/
  | badConfig {input config : Path} {f : Failure} (hinput : c.input = some input)
      (hconfig : c.config = some config)
      (h : outcome w (MixingConfig.load config) = .error f) : Unplanned c w f
  /-- Some edges make no axis, or there are too many categories. -/
  | noGrid {input config : Path} {mixing : MixingConfig} {f : Failure}
      (hinput : c.input = some input) (hconfig : c.config = some config)
      (hmixing : outcome w (MixingConfig.load config) = .ok mixing)
      (h : (mixing.toGrid VariableSet.empty).1 = .error f) : Unplanned c w f

/-- The plan has everything from where it belongs. -/
structure Planned (c : CommandLine) (w : World) (plan : RunPlan) : Prop where
  input_eq : c.input = some plan.input
  config_eq : c.config = some plan.config
  output_eq : c.outputPath? = some plan.output
  pairs_eq : plan.pairs = c.pairsOutput
  report_eq : plan.report = c.occupancyPath?
  skipReport_eq : plan.skipReport = c.noExport
  inferRows_eq : plan.inferRows = c.inferSchemaLength
  setting : ∃ mixing, outcome w (MixingConfig.load plan.config) = .ok mixing ∧
    mixing.toGrid VariableSet.empty = (.ok plan.grid, plan.used) ∧
    plan.depth = c.depthOf mixing

theorem Planned.depth_pos {c : CommandLine} {w : World} {plan : RunPlan} (h : c.Planned w plan)
    (hc : c.mixingDepth ≠ some 0) : 0 < plan.depth := by
  obtain ⟨mixing, hmixing, -, hdepth⟩ := h.setting
  rw [hdepth]
  exact depthOf_pos hc (MixingConfig.mixingDepth_ne_zero_of_load hmixing)

theorem outputPath?_eq_some {c : CommandLine} {input : Path} (h : c.input = some input) :
    ∃ output, c.outputPath? = some output := by
  rw [outputPath?, h]
  exact ⟨_, rfl⟩

section Plan

variable {c : CommandLine} {w : World}

theorem outcome_plan {input config output : Path} (hinput : c.input = some input)
    (hconfig : c.config = some config) (houtput : c.outputPath? = some output) :
    outcome w c.plan = (outcome w (MixingConfig.load config)).bind fun mixing =>
      (mixing.toGrid VariableSet.empty).1.map fun grid =>
        { input, config, output, grid
          used := (mixing.toGrid VariableSet.empty).2
          pairs := c.pairsOutput
          report := c.occupancyPath?
          skipReport := c.noExport
          inferRows := c.inferSchemaLength
          depth := c.depthOf mixing } := by
  unfold plan
  rw [hinput, hconfig, houtput]
  refine (Command.outcome_bind_of_readsOnly (.loadConfig config) w _).trans ?_
  cases outcome w (MixingConfig.load config) with
  | error f => rfl
  | ok mixing =>
      refine (Command.outcome_bind_of_readsOnly (.setUp mixing) w _).trans ?_
      rw [MixingConfig.outcome_setUp]
      dsimp only [Except.bind]
      cases (mixing.toGrid VariableSet.empty).1 with
      | error f => rfl
      | ok grid => rfl

theorem outcome_plan_of_unplanned {f : Failure} (h : c.Unplanned w f) :
    outcome w c.plan = .error f := by
  cases h with
  | noInput h =>
      unfold plan
      rw [h]
      rfl
  | noConfig hinput h =>
      unfold plan
      rw [hinput, h]
      rfl
  | badConfig hinput hconfig h =>
      obtain ⟨output, houtput⟩ := outputPath?_eq_some hinput
      rw [outcome_plan hinput hconfig houtput, h]
      rfl
  | noGrid hinput hconfig hmixing h =>
      obtain ⟨output, houtput⟩ := outputPath?_eq_some hinput
      rw [outcome_plan hinput hconfig houtput, hmixing, Except.bind, h]
      rfl

theorem unplanned_or_planned (c : CommandLine) (w : World) :
    (∃ f, c.Unplanned w f) ∨ ∃ plan, outcome w c.plan = .ok plan ∧ c.Planned w plan := by
  cases hinput : c.input with
  | none => exact Or.inl ⟨_, .noInput hinput⟩
  | some input =>
      cases hconfig : c.config with
      | none => exact Or.inl ⟨_, .noConfig hinput hconfig⟩
      | some config =>
          cases hmixing : outcome w (MixingConfig.load config) with
          | error f => exact Or.inl ⟨f, .badConfig hinput hconfig hmixing⟩
          | ok mixing =>
              cases hgrid : (mixing.toGrid VariableSet.empty).1 with
              | error f => exact Or.inl ⟨f, .noGrid hinput hconfig hmixing hgrid⟩
              | ok grid =>
                  obtain ⟨output, houtput⟩ := outputPath?_eq_some hinput
                  have hplan := outcome_plan (w := w) hinput hconfig houtput
                  rw [hmixing, Except.bind, hgrid] at hplan
                  exact Or.inr ⟨_, hplan, hinput, hconfig, houtput, rfl, rfl, rfl, rfl, mixing,
                    hmixing, Prod.ext hgrid rfl, rfl⟩

theorem planned_of_plan {plan : RunPlan}
    (h : outcome w c.plan = .ok plan) : c.Planned w plan := by
  rcases unplanned_or_planned c w with ⟨f, hf⟩ | ⟨plan', hplan', hplanned⟩
  · rw [outcome_plan_of_unplanned hf] at h
    cases h
  · obtain rfl := Except.ok.inj (hplan'.symm.trans h)
    exact hplanned

theorem Unplanned.sparesDepth {f : Failure} (h : c.Unplanned w f) :
    f.cause ≠ .mixing .zeroPoolDepth := by
  cases h with
  | noInput _ => simp
  | noConfig _ _ => simp
  | badConfig _ _ h => exact MixingConfig.load_sparesDepth w _ f h
  | noGrid _ _ _ h => exact MixingConfig.toGrid_sparesDepth _ _ f h

end Plan

/-! ## A whole run -/

/-- Why a run stops before it writes anything. -/
inductive Stopped (c : CommandLine) (w : World) : Failure → Prop
  | unplanned {f : Failure} (h : c.Unplanned w f) : Stopped c w f
  | stops {plan : RunPlan} {f : Failure} (hplan : outcome w c.plan = .ok plan)
      (h : plan.Stops w f) : Stopped c w f
  /-- The table is to go into a file of no supported format. -/
  | noFormat {plan : RunPlan} {t : Table} {pooling : Pooling}
      (hplan : outcome w c.plan = .ok plan) (hreaches : plan.Reaches w t pooling)
      (h : FileFormat.ofPath? plan.output = none) :
      Stopped c w ⟨[], .refused ("Unsupported output format: "
        ++ FileFormat.extensionOf plan.output ++ ". Supported formats: csv, parquet")⟩

theorem Stopped.sparesDepth {c : CommandLine} {w : World} {f : Failure} (h : c.Stopped w f) :
    f.cause ≠ .mixing .zeroPoolDepth := by
  cases h with
  | unplanned h => exact h.sparesDepth
  | stops _ h => exact h.sparesDepth
  | noFormat _ _ _ => simp

section Run

variable {c : CommandLine} {w : World}

theorem course_run (hbare : c.command = none) :
    course w c.run = match outcome w c.plan with
      | .ok plan => course w plan.perform
      | .error f => (.error f, []) := by
  have hrun : c.run = c.plan >>= RunPlan.perform := by
    unfold run
    rw [hbare]
  rw [hrun, Command.course_bind_of_readsOnly (.plan c)]
  cases outcome w c.plan <;> rfl

/-- A run that reaches saving comes to what saving comes to. -/
theorem course_run_of_reaches (hbare : c.command = none) {plan : RunPlan} {t : Table}
    {pooling : Pooling} (hplan : outcome w c.plan = .ok plan) (h : plan.Reaches w t pooling) :
    course w c.run = course w (plan.saveStep t pooling) := by
  rw [course_run hbare, hplan]
  exact RunPlan.course_perform_of_reaches h

theorem course_run_of_stopped (hbare : c.command = none) {f : Failure} (h : c.Stopped w f) :
    course w c.run = (.error f, []) := by
  rw [course_run hbare]
  cases h with
  | unplanned h => rw [outcome_plan_of_unplanned h]
  | stops hplan h =>
      rw [hplan]
      exact RunPlan.course_perform_of_stops h
  | noFormat hplan hreaches h =>
      rw [hplan]
      refine (RunPlan.course_perform_of_reaches hreaches).trans ?_
      rw [RunPlan.saveStep_eq]
      exact Command.course_bind_of_error (Table.course_save_of_no_format w h) _

theorem stopped_or_reaches (c : CommandLine) (hc : c.mixingDepth ≠ some 0) (w : World) :
    (∃ f, c.Stopped w f) ∨ ∃ plan t pooling, outcome w c.plan = .ok plan ∧ c.Planned w plan ∧
      plan.Reaches w t pooling ∧ FileFormat.ofPath? plan.output ≠ none := by
  rcases unplanned_or_planned c w with ⟨f, h⟩ | ⟨plan, hplan, hplanned⟩
  · exact Or.inl ⟨f, .unplanned h⟩
  · rcases RunPlan.stops_or_reaches w (hplanned.depth_pos hc) with
      ⟨f, h⟩ | ⟨t, pooling, hreaches⟩
    · exact Or.inl ⟨f, .stops hplan h⟩
    · by_cases hformat : FileFormat.ofPath? plan.output = none
      · exact Or.inl ⟨_, .noFormat hplan hreaches hformat⟩
      · exact Or.inr ⟨plan, t, pooling, hplan, hplanned, hreaches, hformat⟩

theorem files_of_course {o : Outcome Unit} {log : List Attempt} (h : course w c.run = (o, log)) :
    (Command.after w c.run).files = log.foldl Attempt.carryOut w.files := by
  obtain ⟨-, rfl⟩ := Prod.mk.inj h
  exact Script.files_play w c.run.run

/-- For every accepted list of arguments, in every world: the pools of a run keep at least
one event; a run that stops before saving has not tried to write; and any other tries to
save the table, then the pairs, then the report, each on its own path and only after what
comes in front has been saved. It fails if the table or the pairs do, and not for the
report. -/
theorem run_saves_in_order {args : List String} (parsed : parse args = .ok c)
    (bare : c.command = none) (w : World) :
    (∀ plan, outcome w c.plan = .ok plan → 0 < plan.depth) ∧
    (∀ f, outcome w c.run = .error f → f.cause ≠ .mixing .zeroPoolDepth) ∧
    (∀ f, c.Stopped w f → outcome w c.run = .error f ∧ attempts w c.run = [] ∧
      (Command.after w c.run).files = w.files) ∧
    ((∀ f, ¬ c.Stopped w f) → ∃ plan t pooling table mixed report,
      outcome w c.plan = .ok plan ∧ c.Planned w plan ∧ plan.Reaches w t pooling ∧
      FileFormat.ofPath? plan.output ≠ none ∧
      attempts w c.run = table ++ mixed ++ report ∧
      (Command.after w c.run).files = (table ++ mixed ++ report).foldl Attempt.carryOut w.files ∧
      plan.InOrder t (Pooling.pairTable pooling.pairs) (outcome w c.run) table mixed report) := by
  have hc := mixingDepth_ne_zero parsed
  have hstopped : ∀ f, c.Stopped w f → course w c.run = (.error f, []) :=
    fun f h => course_run_of_stopped bare h
  refine ⟨fun plan hplan => ?_, fun f hf => ?_, fun f h => ?_, fun hnone => ?_⟩
  · rcases unplanned_or_planned c w with ⟨f, h⟩ | ⟨plan', hplan', hplanned⟩
    · rw [outcome_plan_of_unplanned h] at hplan
      cases hplan
    · obtain rfl := Except.ok.inj (hplan'.symm.trans hplan)
      exact hplanned.depth_pos hc
  · rcases stopped_or_reaches c hc w with ⟨f', h⟩ | ⟨plan, t, pooling, hplan, -, h, -⟩
    · obtain rfl := Except.error.inj ((congrArg Prod.fst (hstopped f' h)).symm.trans hf)
      exact h.sparesDepth
    · obtain ⟨o, table, mixed, report, hcourse, -, hspares⟩ :=
        RunPlan.course_saveStep w plan t pooling
      have houtcome := congrArg Prod.fst ((course_run_of_reaches bare hplan h).trans hcourse)
      exact hspares f (houtcome.symm.trans hf)
  · obtain ⟨houtcome, hattempts⟩ := Prod.mk.inj (hstopped f h)
    exact ⟨houtcome, hattempts, files_of_course (hstopped f h)⟩
  · obtain ⟨plan, t, pooling, hplan, hplanned, h, hformat⟩ :=
      (stopped_or_reaches c hc w).resolve_left fun ⟨f, h⟩ => hnone f h
    obtain ⟨o, table, mixed, report, hcourse, horder, -⟩ :=
      RunPlan.course_saveStep w plan t pooling
    have hrun := (course_run_of_reaches bare hplan h).trans hcourse
    obtain ⟨houtcome, hattempts⟩ := Prod.mk.inj hrun
    refine ⟨plan, t, pooling, table, mixed, report, hplan, hplanned, h, hformat, hattempts,
      files_of_course hrun, ?_⟩
    have houtcome : outcome w c.run = o := houtcome
    rw [houtcome]
    exact horder

/-- A working folder with a table of one row and a configuration without axes. -/
def oneRow : World where
  files := { files := [(["events.v2.CSV"], .text "a\n1\n"),
    (["mixing.json"], .text "\x7b\"axes\":[]\x7d")] }

/-- The table of one row. -/
def oneRowTable : Table := ⟨[⟨"a", .integer .i64 [some 1]⟩], by decide, by decide⟩

theorem oneRow_reads : oneRow.files.read ⟨"mixing.json"⟩ = .ok (.text "\x7b\"axes\":[]\x7d") := by
  rw [FileStore.read, FileStore.resolve_of_isName _ (by decide) (by decide) (by decide)]
  decide +kernel

theorem oneRow_loads : outcome oneRow (Table.load ⟨"events.v2.CSV"⟩ 10000) = .ok oneRowTable := by
  have hfile : oneRow.files.resolve ⟨"events.v2.CSV"⟩ =
      .ok (.file ["events.v2.CSV"] (.text "a\n1\n")) := by
    rw [FileStore.resolve_of_isName _ (by decide) (by decide) (by decide)]
    decide +kernel
  exact outcome_load_of_file oneRow (by decide +kernel) (by decide +kernel) hfile
    (by decide +kernel)

/-- The folder with the table of one row and its category. -/
def oneRowCategorized : FileStore :=
  oneRow.files.put ["events.v2_categorized.CSV"] (.text "a,category\n1,\n")

theorem oneRow_writes : oneRow.files.write ⟨"events.v2_categorized.CSV"⟩
    (.text "a,category\n1,\n") = .ok oneRowCategorized :=
  FileStore.write_of_isName _ (by decide) (by decide) (by decide) (by decide +kernel) _

/-- Every run over the one row comes to saving the row without a category, and no pairs. -/
theorem exists_reaches_oneRow {c : CommandLine} (hinput : c.input = some ⟨"events.v2.CSV"⟩)
    (hconfig : c.config = some ⟨"mixing.json"⟩) (houtput : c.output = none)
    (hdepth : c.mixingDepth = none) (hrows : c.inferSchemaLength = 10000) :
    ∃ plan t pooling, outcome oneRow c.plan = .ok plan ∧ plan.Reaches oneRow t pooling ∧
      plan.output = ⟨"events.v2_categorized.CSV"⟩ ∧
      t.contentFor? ⟨"events.v2_categorized.CSV"⟩ = some (.text "a,category\n1,\n") ∧
      pooling.pairs = [] := by
  have houtputPath : c.outputPath? = some ⟨"events.v2_categorized.CSV"⟩ := by
    rw [outputPath?, hinput, houtput]
    decide +kernel
  have hmixing : outcome oneRow (MixingConfig.load ⟨"mixing.json"⟩) = .ok ⟨[], none⟩ := by
    rw [MixingConfig.outcome_load, oneRow_reads]
    decide +kernel
  obtain ⟨grid, hgrid, categories, t, hcategorize, pooling, hpool, hcontent, hpairs⟩ :
      ∃ grid, MixingConfig.toGrid ⟨[], none⟩ VariableSet.empty = (.ok grid, VariableSet.empty) ∧
        ∃ categories t, oneRowTable.categorize grid VariableSet.empty = .ok (categories, t) ∧
          ∃ pooling, Pooling.ofCategories categories 5 = .ok pooling ∧
            t.contentFor? ⟨"events.v2_categorized.CSV"⟩ = some (.text "a,category\n1,\n") ∧
            pooling.pairs = [] :=
    ⟨_, rfl, _, _, rfl, _, rfl, by decide +kernel, rfl⟩
  have hfive : c.depthOf ⟨[], none⟩ = 5 := by
    rw [depthOf, hdepth]
    rfl
  have hplan := outcome_plan (w := oneRow) hinput hconfig houtputPath
  rw [hmixing, Except.bind, hgrid] at hplan
  have hreaches : oneRowTable.checkColumns VariableSet.empty = .ok () := rfl
  refine ⟨_, t, pooling, hplan, ⟨oneRowTable, categories, ?_, hreaches, hcategorize, ?_⟩, rfl,
    hcontent, hpairs⟩
  · rw [hrows]
    exact oneRow_loads
  · rw [hfive]
    exact hpool

/-- The command line that asks for the mixed pairs as a table. -/
def pairsAsTable : CommandLine where
  input := some ⟨"events.v2.CSV"⟩
  config := some ⟨"mixing.json"⟩
  pairsOutput := some ⟨"pairs.csv"⟩

theorem parse_pairsAsTable :
    parse ["-i", "events.v2.CSV", "-c", "mixing.json", "--pairs-output", "pairs.csv"] =
      .ok pairsAsTable := by
  decide +kernel

theorem occupancyPath?_pairsAsTable :
    pairsAsTable.occupancyPath? = some ⟨"events.v2_occupancy.json"⟩ := by
  decide +kernel

theorem contentFor?_pairTable_nil : (Pooling.pairTable []).contentFor? ⟨"pairs.csv"⟩ =
    some (.text "category,first_row,second_row\n") := by
  decide +kernel

theorem oneRow_lacks_pairs :
    oneRowCategorized.walk false [] ["pairs.csv"] = .ok (.vacant ["pairs.csv"]) := by
  decide +kernel

/-- All can be written, and the report is attempted. -/
theorem pairsAsTable_saves : outcome oneRow pairsAsTable.run = .ok () ∧
    ∃ a ∈ attempts oneRow pairsAsTable.run, a.path = ⟨"events.v2_occupancy.json"⟩ := by
  obtain ⟨plan, t, pooling, hplan, hreaches, houtput, hcontent, hnone⟩ :=
    exists_reaches_oneRow (c := pairsAsTable) rfl rfl rfl rfl rfl
  have hplanned := planned_of_plan hplan
  obtain ⟨htable, hafter⟩ := Table.outcome_save_of_write hcontent oneRow_writes
  have hpairs : outcome { oneRow with files := oneRowCategorized } (plan.savePairs pooling) =
      .ok () := by
    obtain ⟨hok, -⟩ := Table.outcome_save_of_write
      (w := { oneRow with files := oneRowCategorized }) contentFor?_pairTable_nil
      (FileStore.write_of_isName _ (by decide) (by decide) (by decide) oneRow_lacks_pairs _)
    rw [RunPlan.savePairs, hplanned.pairs_eq, hnone]
    exact (Prod.mk.inj (Command.course_bind_of_ok (Command.course_of_outcome hok) _)).1
  rw [← houtput] at htable hafter
  obtain ⟨w', hcourse⟩ := RunPlan.course_saveStep_of_saved htable (by rw [hafter]; exact hpairs)
  obtain ⟨a, hreport, hpath⟩ :=
    RunPlan.course_reportStep w' plan pooling ⟨"events.v2_occupancy.json"⟩
  obtain ⟨-, hattempts⟩ := Prod.mk.inj hreport
  obtain ⟨hok, hlog⟩ := Prod.mk.inj ((course_run_of_reaches rfl hplan hreaches).trans hcourse)
  refine ⟨hok, a, ?_, hpath⟩
  rw [hlog, RunPlan.saveReport_eq_reportStep hplanned.skipReport_eq
    (hplanned.report_eq.trans occupancyPath?_pairsAsTable), hattempts]
  simp

/-- Without a configuration a run stops before it writes, whatever else it is given. Over one
row it saves the table, then the pairs, then the report. -/
theorem run_saves_in_order_oneRow :
    (∃ c, parse ["-i", "events.csv", "--pairs-output=pairs.csv", "--mixing-depth", "3"] = .ok c ∧
      c.command = none ∧
      attempts { files := ⟨[(["events.csv"], .text "")], []⟩ } c.run = []) ∧
    outcome oneRow pairsAsTable.run = .ok () ∧ ∃ a, a.path = ⟨"events.v2_occupancy.json"⟩ ∧
      attempts oneRow pairsAsTable.run =
        [⟨⟨"events.v2_categorized.CSV"⟩, .text "a,category\n1,\n", .ok ()⟩,
          ⟨⟨"pairs.csv"⟩, .text "category,first_row,second_row\n", .ok ()⟩, a] := by
  constructor
  · have hparsed : parse ["-i", "events.csv", "--pairs-output=pairs.csv", "--mixing-depth", "3"] =
        .ok { input := some ⟨"events.csv"⟩
              pairsOutput := some ⟨"pairs.csv"⟩
              mixingDepth := some 3 } := by
      decide +kernel
    obtain ⟨-, -, hstopped, -⟩ := run_saves_in_order hparsed rfl
      { files := ⟨[(["events.csv"], .text "")], []⟩ }
    exact ⟨_, hparsed, rfl, (hstopped _ (.unplanned (.noConfig rfl rfl))).2.1⟩
  · obtain ⟨hok, a, ha, hpath⟩ := pairsAsTable_saves
    obtain ⟨-, -, hstopped, hsaves⟩ := run_saves_in_order parse_pairsAsTable rfl oneRow
    obtain ⟨plan, t, pooling, table, mixed, report, hplan, hplanned, hreaches, -, hattempts, -,
      horder⟩ := hsaves fun f hf => nomatch hok.symm.trans (hstopped f hf).1
    obtain ⟨plan', t', pooling', hplan', hreaches', houtput, hcontent, hnone⟩ :=
      exists_reaches_oneRow (c := pairsAsTable) rfl rfl rfl rfl rfl
    obtain rfl := Except.ok.inj (hplan.symm.trans hplan')
    obtain ⟨rfl, rfl⟩ := hreaches.unique hreaches'
    obtain ⟨⟨content, hcontent', rfl⟩, hmixed⟩ := horder.ok_iff.mp hok
    obtain ⟨content', hpairs, rfl⟩ := hmixed _ hplanned.pairs_eq
    rw [houtput, hcontent] at hcontent'
    rw [hnone, contentFor?_pairTable_nil] at hpairs
    obtain rfl := Option.some.inj hcontent'
    obtain rfl := Option.some.inj hpairs
    rw [houtput] at hattempts
    -- the attempt at the report's path is neither of the first two
    have hreport : a ∈ report := by
      rw [hattempts, List.append_assoc, List.mem_append, List.mem_append, List.mem_singleton,
        List.mem_singleton] at ha
      rcases ha with rfl | rfl | ha
      · exact absurd hpath (by decide)
      · exact absurd hpath (by decide)
      · exact ha
    obtain ⟨-, -, honce⟩ := horder.once
    obtain ⟨b, rfl⟩ := List.length_eq_one_iff.mp
      (Nat.le_antisymm honce (List.length_pos_of_mem hreport))
    obtain rfl := List.mem_singleton.mp hreport
    exact ⟨hok, a, hpath, hattempts⟩

end Run

end CommandLine

end EventMixing
