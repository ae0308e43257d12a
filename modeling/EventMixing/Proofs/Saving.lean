import EventMixing.Proofs.Effects

/-!
# Saving the results of a run

A table is saved by one attempt on its file, which puts the whole table there or fails
(`Table.course_save`). The results of a run are saved one after the other, and a file is
attempted only if all is well with those in front of it: `RunPlan.InOrder` says what
attempts that makes, `RunPlan.course_saveStep` that these are the ones made. The report
comes last, and nothing depends on it.
-/

namespace EventMixing

open Command (outcome attempts course)

/-! ## Saving one file -/

namespace Table

/-- What a file of a path's format holds of a table, if the path asks for a format and the
format has room for the table. -/
def contentFor? (t : Table) (path : Path) : Option FileContent :=
  match FileFormat.ofPath? path with
  | none => none
  | some .parquet => some (.table t)
  | some .csv => (Csv.write? t).map .text

/-- The one attempt has put the whole table into the file of a path. -/
def SavedBy (t : Table) (path : Path) (log : List Attempt) : Prop :=
  ∃ content, t.contentFor? path = some content ∧ log = [⟨path, content, .ok ()⟩]

theorem course_create (w : World) (path : Path) (content : FileContent) :
    course w (create path content) = (.ok (), [⟨path, content, .ok ()⟩]) ∨
      ∃ fault, course w (create path content) =
        (.error ⟨["Failed to create output file: " ++ path.text], .file fault⟩,
          [⟨path, content, .error fault⟩]) := by
  rw [create, Command.within, Command.course_adapt]
  rcases Command.course_writeFile w path content with hok | ⟨fault, herror⟩
  · obtain ⟨houtcome, hattempts⟩ := Prod.mk.inj hok
    exact Or.inl (by rw [houtcome, hattempts]; rfl)
  · obtain ⟨houtcome, hattempts⟩ := Prod.mk.inj herror
    exact Or.inr ⟨fault, by rw [houtcome, hattempts]; rfl⟩

/-- A table was not put into its file: the failure, and what it leaves behind. -/
structure FailsToSave (t : Table) (path : Path) (f : Failure) (log : List Attempt) : Prop where
  notSaved : ¬ t.SavedBy path log
  once : log.length ≤ 1
  path_eq : ∀ a ∈ log, a.path = path
  cause_ne : f.cause ≠ .mixing .zeroPoolDepth

theorem save_of_contentFor? {t : Table} {path : Path} {content : FileContent}
    (h : t.contentFor? path = some content) : t.save path = create path content := by
  unfold contentFor? at h
  unfold save
  -- what the format and the text are does not matter
  generalize FileFormat.ofPath? path = format at h ⊢
  generalize Csv.write? t = text at h ⊢
  cases format with
  | none => cases h
  | some format =>
      cases format with
      | parquet =>
          cases h
          rfl
      | csv =>
          obtain ⟨text, rfl, rfl⟩ := Option.map_eq_some_iff.mp h
          rfl

/-- A table is saved where its content can be written, and the store is then the one with
its file. -/
theorem outcome_save_of_write {w : World} {t : Table} {path : Path} {content : FileContent}
    {files : FileStore} (hcontent : t.contentFor? path = some content)
    (hwrite : w.files.write path content = .ok files) :
    outcome w (t.save path) = .ok () ∧ Command.after w (t.save path) = { w with files } := by
  rw [save_of_contentFor? hcontent, create, Command.within, Command.outcome_adapt,
    Command.after_adapt, Command.outcome_writeFile_of_ok hwrite,
    Command.after_writeFile_of_ok hwrite]
  exact ⟨rfl, rfl⟩

/-- A path that asks for no supported format is refused before anything is written. -/
theorem course_save_of_no_format (w : World) {t : Table} {path : Path}
    (h : FileFormat.ofPath? path = none) :
    course w (t.save path) = (.error ⟨[], .refused ("Unsupported output format: "
      ++ FileFormat.extensionOf path ++ ". Supported formats: csv, parquet")⟩, []) := by
  unfold save
  generalize FileFormat.ofPath? path = format at h ⊢
  subst h
  rfl

/-- Without a content for its file a table is not saved, though a CSV file may be left
empty. -/
theorem course_save_of_contentFor?_eq_none (w : World) {t : Table} {path : Path}
    (h : t.contentFor? path = none) :
    ∃ f log, course w (t.save path) = (.error f, log) ∧ log.length ≤ 1 ∧
      (∀ a ∈ log, a.path = path) ∧ f.cause ≠ .mixing .zeroPoolDepth := by
  unfold contentFor? at h
  unfold save
  generalize FileFormat.ofPath? path = format at h ⊢
  generalize Csv.write? t = text at h ⊢
  cases format with
  | none => exact ⟨_, [], rfl, Nat.zero_le 1, by simp, by simp⟩
  | some format =>
      cases format with
      | parquet => cases h
      | csv =>
          obtain rfl := Option.map_eq_none_iff.mp h
          rcases course_create w path (.text "") with hok | ⟨fault, herror⟩
          · exact ⟨_, [⟨path, .text "", .ok ()⟩], Command.course_bind_of_ok hok _, Nat.le_refl 1,
              by simp, by simp [Failure.within]⟩
          · exact ⟨_, _, Command.course_bind_of_error herror _, Nat.le_refl 1, by simp, by simp⟩

/-- Saving a table puts it into its file or fails, after one attempt on that file at most. -/
theorem course_save (w : World) (t : Table) (path : Path) :
    (∃ log, course w (t.save path) = (.ok (), log) ∧ t.SavedBy path log) ∨
      ∃ f log, course w (t.save path) = (.error f, log) ∧ t.FailsToSave path f log := by
  cases hcontent : t.contentFor? path with
  | none =>
      obtain ⟨f, log, hcourse, hlength, hpath, hcause⟩ :=
        course_save_of_contentFor?_eq_none w hcontent
      refine Or.inr ⟨f, log, hcourse, fun hsaved => ?_, hlength, hpath, hcause⟩
      obtain ⟨content, hsome, -⟩ := hsaved
      rw [hcontent] at hsome
      cases hsome
  | some content =>
      rw [save_of_contentFor? hcontent]
      rcases course_create w path content with hok | ⟨fault, herror⟩
      · exact Or.inl ⟨_, hok, content, hcontent, rfl⟩
      · refine Or.inr ⟨_, _, herror, ?_, Nat.le_refl 1, by simp, by simp⟩
        rintro ⟨content', -, hlog⟩
        cases (List.cons.inj hlog).1

end Table

/-! ## Saving all results -/

namespace RunPlan

/-- Saves the mixed pairs if they are wanted. -/
def savePairs (plan : RunPlan) (pooling : Pooling) : Command Unit :=
  match plan.pairs with
  | none => pure ()
  | some path => do
    (Pooling.pairTable pooling.pairs).save path
    Command.printed (Console.success ("Mixed pairs saved to " ++ path.text))

/-- Writes the occupancy report unless it is skipped or has no place. -/
def saveReport (plan : RunPlan) (pooling : Pooling) : Command Unit :=
  if plan.skipReport then Command.printed (Console.info "Skipping occupancy export")
  else match plan.report with
    | none => pure ()
    | some path => plan.reportStep pooling path

theorem saveStep_eq (plan : RunPlan) (t : Table) (pooling : Pooling) :
    plan.saveStep t pooling = (do
      t.save plan.output
      plan.savePairs pooling
      plan.saveReport pooling) := by
  unfold saveStep savePairs saveReport
  cases plan.pairs with
  | none => cases plan.report <;> simp
  | some path => cases plan.report <;> simp

/-- Saving a report is one attempt on its file, with whatever success. -/
theorem attempts_reportSave (w : World) (g : Grid) (p : Pooling) (origin : ReportOrigin)
    (path : Path) :
    ∃ a, attempts w (OccupancyReport.save g p origin path) = [a] ∧ a.path = path := by
  have hcourse : course w (OccupancyReport.save g p origin path) = course w (Command.within
      ("Failed to write category occupancy to " ++ path.text) (Command.writeFile path
        (.text (OccupancyReport.build g p origin w.timestamp).document.pretty))) :=
    Command.course_bind_of_readsOnly .timestamp w _
  rw [Command.within, Command.course_adapt] at hcourse
  have hattempts := congrArg Prod.snd hcourse
  rcases Command.course_writeFile w path
    (.text (OccupancyReport.build g p origin w.timestamp).document.pretty) with h | ⟨fault, h⟩
  · exact ⟨_, hattempts.trans (congrArg Prod.snd h), rfl⟩
  · exact ⟨_, hattempts.trans (congrArg Prod.snd h), rfl⟩

/-- That the attempt at the report failed is told and no failure. -/
theorem course_reportStep (w : World) (plan : RunPlan) (pooling : Pooling) (path : Path) :
    ∃ a, course w (plan.reportStep pooling path) = (.ok (), [a]) ∧ a.path = path := by
  obtain ⟨a, hattempts, hplace⟩ := attempts_reportSave w plan.grid pooling
    ⟨plan.input.text, plan.config.text, plan.depth⟩ path
  refine ⟨a, ?_, hplace⟩
  rw [reportStep, Command.course_bind_of_ok (Command.course_lift_run w _), hattempts]
  cases outcome w (OccupancyReport.save plan.grid pooling
    ⟨plan.input.text, plan.config.text, plan.depth⟩ path) <;> rfl

theorem saveReport_eq_reportStep {plan : RunPlan} {path : Path} (hskip : plan.skipReport = false)
    (hpath : plan.report = some path) (pooling : Pooling) :
    plan.saveReport pooling = plan.reportStep pooling path := by
  rw [saveReport, hskip, hpath]
  rfl

/-- The report does not fail a run, whatever becomes of the attempt at it. -/
theorem course_saveReport (w : World) (plan : RunPlan) (pooling : Pooling) :
    ∃ log, course w (plan.saveReport pooling) = (.ok (), log) ∧ log.length ≤ 1 ∧
      ∀ a ∈ log, plan.skipReport = false ∧ plan.report = some a.path := by
  unfold saveReport
  split
  · exact ⟨[], rfl, Nat.zero_le 1, by simp⟩
  · rename_i hskip
    split
    · exact ⟨[], rfl, Nat.zero_le 1, by simp⟩
    · rename_i path hpath
      obtain ⟨a, hcourse, hplace⟩ := course_reportStep w plan pooling path
      refine ⟨[a], hcourse, Nat.le_refl 1, fun a' ha' => ?_⟩
      obtain rfl := List.mem_singleton.mp ha'
      exact ⟨by simpa using hskip, hplace ▸ hpath⟩

/-- What saving the pairs comes to: it goes well exactly where they are in their file or no
file is wanted. -/
structure PairsSaved (plan : RunPlan) (pairs : Table) (o : Outcome Unit) (log : List Attempt) :
    Prop where
  once : log.length ≤ 1
  path_eq : ∀ a ∈ log, plan.pairs = some a.path
  ok_iff : o = .ok () ↔ ∀ path, plan.pairs = some path → pairs.SavedBy path log
  spares : o.SparesDepth

theorem course_savePairs (w : World) (plan : RunPlan) (pooling : Pooling) :
    ∃ o log, course w (plan.savePairs pooling) = (o, log) ∧
      plan.PairsSaved (Pooling.pairTable pooling.pairs) o log := by
  unfold savePairs
  cases hpairs : plan.pairs with
  | none =>
      refine ⟨.ok (), [], rfl, Nat.zero_le 1, by simp, ?_, .ok ()⟩
      simp [hpairs]
  | some path =>
      rcases Table.course_save w (Pooling.pairTable pooling.pairs) path with
        ⟨log, hcourse, hsaved⟩ | ⟨f, log, hcourse, hfails⟩
      · obtain ⟨content, hcontent, rfl⟩ := hsaved
        refine ⟨.ok (), _, (Command.course_bind_of_ok hcourse _).trans
          (congrArg (Prod.mk _) (List.append_nil _)), Nat.le_refl 1, by simp [hpairs], ?_, .ok ()⟩
        refine iff_of_true rfl fun path' hpath' => ?_
        obtain rfl := Option.some.inj (hpairs.symm.trans hpath')
        exact ⟨content, hcontent, rfl⟩
      · refine ⟨_, _, Command.course_bind_of_error hcourse _, hfails.once, ?_, ?_,
          .error hfails.cause_ne⟩
        · intro a ha
          rw [hpairs, hfails.path_eq a ha]
        · simp only [reduceCtorEq, false_iff]
          intro hall
          exact hfails.notSaved (hall path hpairs)

/-- The attempts at saving, on the table's file, on that of the pairs and on the report's:
one on each at most, none before those in front of it have gone well, and the run goes well
exactly where the table and the pairs are in their files. -/
structure InOrder (plan : RunPlan) (t pairs : Table) (o : Outcome Unit)
    (table mixed report : List Attempt) : Prop where
  once : table.length ≤ 1 ∧ mixed.length ≤ 1 ∧ report.length ≤ 1
  table_path : ∀ a ∈ table, a.path = plan.output
  mixed_path : ∀ a ∈ mixed, plan.pairs = some a.path
  report_path : ∀ a ∈ report, plan.skipReport = false ∧ plan.report = some a.path
  table_first : mixed ≠ [] ∨ report ≠ [] → t.SavedBy plan.output table
  mixed_next : report ≠ [] → ∀ path, plan.pairs = some path → pairs.SavedBy path mixed
  ok_iff : o = .ok () ↔
    t.SavedBy plan.output table ∧ ∀ path, plan.pairs = some path → pairs.SavedBy path mixed

theorem course_saveStep (w : World) (plan : RunPlan) (t : Table) (pooling : Pooling) :
    ∃ o table mixed report, course w (plan.saveStep t pooling) = (o, table ++ mixed ++ report) ∧
      plan.InOrder t (Pooling.pairTable pooling.pairs) o table mixed report ∧
      o.SparesDepth := by
  rw [saveStep_eq]
  rcases Table.course_save w t plan.output with ⟨table, htable, hsaved⟩ | ⟨f, table, htable, hfails⟩
  · rw [Command.course_bind_of_ok htable]
    generalize Command.after w (t.save plan.output) = w₁
    have honce : table.length ≤ 1 ∧ ∀ a ∈ table, a.path = plan.output := by
      obtain ⟨content, -, rfl⟩ := hsaved
      exact ⟨Nat.le_refl 1, by simp⟩
    obtain ⟨o, mixed, hmixed, hpairs⟩ := course_savePairs w₁ plan pooling
    cases o with
    | ok u =>
        generalize hw₂ : Command.after w₁ (plan.savePairs pooling) = w₂
        obtain ⟨report, hreport, hlength, hpath⟩ := course_saveReport w₂ plan pooling
        have hrest := Command.course_bind_of_ok hmixed fun _ => plan.saveReport pooling
        rw [hw₂] at hrest
        obtain ⟨houtcome, hattempts⟩ := Prod.mk.inj hrest
        obtain ⟨hok, hlog⟩ := Prod.mk.inj hreport
        refine ⟨.ok (), table, mixed, report, ?_, ?_, .ok ()⟩
        · rw [houtcome, hattempts, hok, hlog, List.append_assoc]
        · have hsaved' := hpairs.ok_iff.mp rfl
          exact ⟨⟨honce.1, hpairs.once, hlength⟩, honce.2, hpairs.path_eq, hpath,
            fun _ => hsaved, fun _ => hsaved', iff_of_true rfl ⟨hsaved, hsaved'⟩⟩
    | error f =>
        obtain ⟨houtcome, hattempts⟩ := Prod.mk.inj
          (Command.course_bind_of_error hmixed fun _ => plan.saveReport pooling)
        refine ⟨.error f, table, mixed, [], ?_, ?_, hpairs.spares⟩
        · rw [houtcome, hattempts, List.append_nil]
        · exact ⟨⟨honce.1, hpairs.once, Nat.zero_le 1⟩, honce.2, hpairs.path_eq, by simp,
            fun _ => hsaved, fun h => absurd rfl h,
            hpairs.ok_iff.trans (and_iff_right hsaved).symm⟩
  · refine ⟨.error f, table, [], [], ?_, ?_, .error hfails.cause_ne⟩
    · rw [Command.course_bind_of_error htable, List.append_nil, List.append_nil]
    · exact ⟨⟨hfails.once, Nat.zero_le 1, Nat.zero_le 1⟩, hfails.path_eq, by simp, by simp,
        by simp, by simp, iff_of_false (by simp) fun h => hfails.notSaved h.1⟩

/-- After the table and the pairs the report is attempted, and all goes well. -/
theorem course_saveStep_of_saved {w : World} {plan : RunPlan} {t : Table} {pooling : Pooling}
    (htable : outcome w (t.save plan.output) = .ok ())
    (hpairs : outcome (Command.after w (t.save plan.output)) (plan.savePairs pooling) = .ok ()) :
    ∃ w', course w (plan.saveStep t pooling) = (.ok (), attempts w (t.save plan.output) ++
      (attempts (Command.after w (t.save plan.output)) (plan.savePairs pooling) ++
        attempts w' (plan.saveReport pooling))) := by
  generalize hw₁ : Command.after w (t.save plan.output) = w₁ at hpairs ⊢
  refine ⟨Command.after w₁ (plan.savePairs pooling), ?_⟩
  obtain ⟨log, hreport, -⟩ :=
    course_saveReport (Command.after w₁ (plan.savePairs pooling)) plan pooling
  have hrest := Command.course_bind_of_ok (Command.course_of_outcome hpairs)
    fun _ => plan.saveReport pooling
  obtain ⟨hok, -⟩ := Prod.mk.inj hreport
  rw [hok] at hrest
  obtain ⟨houtcome, hattempts⟩ := Prod.mk.inj hrest
  rw [saveStep_eq, Command.course_bind_of_ok (Command.course_of_outcome htable), hw₁, houtcome,
    hattempts]

end RunPlan

end EventMixing
