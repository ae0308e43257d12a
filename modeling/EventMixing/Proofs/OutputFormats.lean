import EventMixing.Proofs.Runs

/-!
# Refusing the format of an output

A table is not saved to a path that asks for no supported format, and this failure is told
from all others by having no context around it: what else may go wrong once a table has been
loaded names a file or a column. So a run that gets past loading, with a supported format for
its table, refuses a format exactly where that of the pairs is not supported
(`CommandLine.refuses_pairs_of_run`, `CommandLine.outcome_run_of_pairs_format`).
-/

namespace EventMixing

open Command (outcome course)

/-! ## The failure -/

/-- The failure to save a table into a file of an extension without a format. -/
def unsupportedOutput (ext : String) : Failure :=
  ⟨[], .refused ("Unsupported output format: " ++ ext ++ ". Supported formats: csv, parquet")⟩

theorem unsupportedOutput_injective {ext ext' : String}
    (h : unsupportedOutput ext = unsupportedOutput ext') : ext = ext' := by
  have hreason := Cause.refused.inj (Failure.mk.inj h).2
  simpa [← String.toList_inj] using hreason

/-! ## Failures that are others -/

namespace Table

variable (w : World) {t : Table} {path : Path}

theorem contexts_ne_nil_of_create {content : FileContent} {f : Failure}
    (h : outcome w (create path content) = .error f) : f.contexts ≠ [] := by
  rcases course_create w path content with hok | ⟨fault, herror⟩
  · cases h.symm.trans (Prod.mk.inj hok).1
  · obtain rfl := Except.error.inj (h.symm.trans (Prod.mk.inj herror).1)
    simp

/-- Saving to a supported format fails for the file or for the table only. -/
theorem contexts_ne_nil_of_save (hformat : FileFormat.ofPath? path ≠ none) {f : Failure}
    (h : outcome w (t.save path) = .error f) : f.contexts ≠ [] := by
  unfold save at h
  -- what the format and the text are does not matter
  generalize FileFormat.ofPath? path = format at hformat h
  generalize Csv.write? t = text at h
  cases format with
  | none => exact absurd rfl hformat
  | some format =>
      cases format with
      | parquet => exact contexts_ne_nil_of_create w h
      | csv =>
          cases text with
          | some text => exact contexts_ne_nil_of_create w h
          | none =>
              rcases course_create w path (.text "") with hok | ⟨fault, herror⟩
              · obtain rfl := Except.error.inj
                  (h.symm.trans (Prod.mk.inj (Command.course_bind_of_ok hok _)).1)
                simp [Failure.within]
              · obtain rfl := Except.error.inj
                  (h.symm.trans (Prod.mk.inj (Command.course_bind_of_error herror _)).1)
                simp

theorem contexts_ne_nil_of_doublesOf {v : Variable} {f : Failure}
    (h : t.doublesOf v = .error f) : f.contexts ≠ [] := by
  unfold doublesOf at h
  split at h
  · obtain rfl := Except.error.inj h
    simp
  · split at h
    · obtain rfl := Except.error.inj h
      simp
    · cases h

theorem contexts_ne_nil_of_categorize {g : Grid} {used : VariableSet} {f : Failure}
    (h : t.categorize g used = .error f) : f.contexts ≠ [] := by
  have hread : ∀ (vs : List Variable) (rows : List Observables),
      t.readVariables rows vs = .error f → f.contexts ≠ [] := by
    intro vs
    induction vs with
    | nil => exact fun _ h => nomatch h
    | cons v rest ih =>
        intro rows h
        rw [readVariables] at h
        split at h
        · rename_i hdoubles
          obtain rfl := Except.error.inj h
          exact contexts_ne_nil_of_doublesOf hdoubles
        · exact ih _ h
  exact hread _ _ (categorize_eq_error_iff.mp h)

end Table

/-! ## A run's refusals -/

namespace RunPlan

variable {w : World} {plan : RunPlan} {t : Table} {pooling : Pooling} {ext : String}

theorem refuses_pairs_of_savePairs
    (h : outcome w (plan.savePairs pooling) = .error (unsupportedOutput ext)) :
    ∃ path, plan.pairs = some path ∧ FileFormat.ofPath? path = none ∧
      ext = FileFormat.extensionOf path := by
  unfold savePairs at h
  split at h
  · cases h
  · rename_i path hpath
    refine ⟨path, hpath, ?_⟩
    rcases Command.outcome_bind_eq_error h with hsave | ⟨_, -, hprinted⟩
    · by_cases hformat : FileFormat.ofPath? path = none
      · obtain ⟨hrefused, -⟩ := Prod.mk.inj (Table.course_save_of_no_format w hformat)
        exact ⟨hformat, unsupportedOutput_injective (Except.error.inj (hsave.symm.trans hrefused))⟩
      · exact absurd rfl (Table.contexts_ne_nil_of_save w hformat hsave)
    · cases hprinted

/-- Saving refuses the format of the pairs' file only, if the table's has one. -/
theorem refuses_pairs_of_saveStep (hformat : FileFormat.ofPath? plan.output ≠ none)
    (h : outcome w (plan.saveStep t pooling) = .error (unsupportedOutput ext)) :
    ∃ path, plan.pairs = some path ∧ FileFormat.ofPath? path = none ∧
      ext = FileFormat.extensionOf path := by
  rw [saveStep_eq] at h
  rcases Command.outcome_bind_eq_error h with htable | ⟨_, -, hrest⟩
  · exact absurd rfl (Table.contexts_ne_nil_of_save w hformat htable)
  · rcases Command.outcome_bind_eq_error hrest with hpairs | ⟨_, -, hreport⟩
    · exact refuses_pairs_of_savePairs hpairs
    · obtain ⟨log, hcourse, -⟩ := course_saveReport _ plan pooling
      cases hreport.symm.trans (Prod.mk.inj hcourse).1

/-- A run that gets past loading refuses the format of the pairs' file only, if the table's
has one. -/
theorem refuses_pairs_of_perform (hformat : FileFormat.ofPath? plan.output ≠ none)
    (hdepth : 0 < plan.depth)
    (hload : outcome w (Table.loadEvents plan.input plan.used plan.inferRows) = .ok t)
    (h : outcome w plan.perform = .error (unsupportedOutput ext)) :
    ∃ path, plan.pairs = some path ∧ FileFormat.ofPath? path = none ∧
      ext = FileFormat.extensionOf path := by
  cases hcategorize : t.categorize plan.grid plan.used with
  | error f =>
      obtain ⟨hfailed, -⟩ := Prod.mk.inj (course_perform_of_categorize_error hload hcategorize)
      obtain rfl := Except.error.inj (hfailed.symm.trans h)
      exact absurd rfl (Table.contexts_ne_nil_of_categorize hcategorize)
  | ok result =>
      obtain ⟨progress, hpool, -⟩ := Pooling.exists_ofCategories result.1 hdepth
      have hcourse := course_perform_of_ok hload hcategorize (by rw [pool, hpool]; rfl)
      exact refuses_pairs_of_saveStep hformat ((Prod.mk.inj hcourse).1.symm.trans h)

end RunPlan

namespace CommandLine

variable {c : CommandLine} {w : World} {plan : RunPlan} {t : Table}

theorem refuses_pairs_of_run (hc : c.mixingDepth ≠ some 0) (bare : c.command = none)
    (hplan : outcome w c.plan = .ok plan) (hformat : FileFormat.ofPath? plan.output ≠ none)
    (hload : outcome w (Table.loadEvents plan.input plan.used plan.inferRows) = .ok t)
    {ext : String} (h : outcome w c.run = .error (unsupportedOutput ext)) :
    ∃ path, c.pairsOutput = some path ∧ FileFormat.ofPath? path = none ∧
      ext = FileFormat.extensionOf path := by
  have hplanned := planned_of_plan hplan
  have hrun : course w c.run = course w plan.perform := by rw [course_run bare, hplan]
  rw [← hplanned.pairs_eq]
  exact RunPlan.refuses_pairs_of_perform hformat (hplanned.depth_pos hc) hload
    ((Prod.mk.inj hrun).1.symm.trans h)

/-- A run that reaches saving refuses the path of the pairs once the table has been saved, if
it asks for no supported format. -/
theorem outcome_run_of_pairs_format {pooling : Pooling} {path : Path} (bare : c.command = none)
    (hplan : outcome w c.plan = .ok plan)
    (hreaches : plan.Reaches w t pooling) (hsaved : outcome w (t.save plan.output) = .ok ())
    (hpairs : plan.pairs = some path) (hformat : FileFormat.ofPath? path = none) :
    outcome w c.run = .error (unsupportedOutput (FileFormat.extensionOf path)) := by
  have hrefused : ∀ w', course w' (plan.savePairs pooling) =
      (.error (unsupportedOutput (FileFormat.extensionOf path)), []) := by
    intro w'
    unfold RunPlan.savePairs
    rw [hpairs]
    exact Command.course_bind_of_error (Table.course_save_of_no_format w' hformat) _
  have htable := Command.course_of_outcome hsaved
  have hsave : outcome w (plan.saveStep t pooling) =
      .error (unsupportedOutput (FileFormat.extensionOf path)) := by
    rw [RunPlan.saveStep_eq]
    obtain ⟨hrest, -⟩ := Prod.mk.inj (Command.course_bind_of_ok htable fun _ => do
      plan.savePairs pooling
      plan.saveReport pooling)
    rw [hrest]
    exact (Prod.mk.inj (Command.course_bind_of_error (hrefused _) _)).1
  exact (Prod.mk.inj (course_run_of_reaches bare hplan hreaches)).1.trans hsave

end CommandLine

end EventMixing
