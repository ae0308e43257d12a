import Mathlib.Data.List.Nodup
import EventMixing.Proofs.Formats
import EventMixing.Proofs.Locations
import EventMixing.Proofs.OutputFormats

/-!
# Where a run puts its results

Unless it is told otherwise, a run puts its table and its report beside the input, under names
made from the input's stem. `CommandLine.derived_paths_beside_input` says that none of these
files is another one and that the table keeps the format of the input, so that saving it does
not fail for its format. The pairs are put where the command line says, and that path may ask
for no supported format (`CommandLine.refuses_pairs_of_run`).
-/

namespace EventMixing

open Command (outcome)

/-! ## Names made from a stem -/

namespace Path

/-- An underscore makes a name of a text without slashes. -/
theorem isName_of_underscore {name : List Char} (hslash : '/' ∉ name) (hmem : '_' ∈ name) :
    IsName name where
  ne_nil := List.ne_nil_of_mem hmem
  slash_notMem := hslash
  ne_dot := by
    rintro rfl
    simp at hmem
  ne_dots := by
    rintro rfl
    simp at hmem

variable {p q : Path} {stem stem' ext ext' : String}

theorem NamedBy.slash_notMem (h : p.NamedBy stem ext) :
    '/' ∉ stem.toList ∧ '/' ∉ ext.toList := by
  have hslash := (isName_of_fileName? h.fileName?_eq).slash_notMem
  simp only [String.toList_append, List.mem_append, not_or] at hslash
  exact ⟨hslash.1.1, hslash.2⟩

/-- What is put beside a file, under a name made from its stem and a mark with an
underscore. -/
theorem NamedBy.beside (h : p.NamedBy stem ext) {folder : Path}
    (hjoin : ∀ other : String, IsName other.toList →
      (folder.join other).parent? = some folder ∧ (folder.join other).fileName? = some other)
    (mark ext' : String) (hmark : '_' ∈ mark.toList ∧ '/' ∉ mark.toList)
    (hext : '/' ∉ ext'.toList ∧ '.' ∉ ext'.toList) :
    (folder.join (stem ++ mark ++ "." ++ ext')).parent? = some folder ∧
      (folder.join (stem ++ mark ++ "." ++ ext')).NamedBy (stem ++ mark) ext' := by
  have hname : IsName (stem ++ mark ++ "." ++ ext').toList :=
    isName_of_underscore (by simp [h.slash_notMem.1, hmark.2, hext.1]) (by simp [hmark.1])
  obtain ⟨hparent, hfileName⟩ := hjoin _ hname
  exact ⟨hparent, hfileName, by simp [h.stem_ne], hext.2⟩

/-- Files of one name have one stem and one extension. -/
theorem NamedBy.unique (h : p.NamedBy stem ext) (h' : q.NamedBy stem' ext')
    (hname : p.fileName? = q.fileName?) : stem = stem' ∧ ext = ext' := by
  have hparts := h.splitName_eq
  rw [Option.some.inj (h.fileName?_eq.symm.trans (hname.trans h'.fileName?_eq)),
    h'.splitName_eq] at hparts
  obtain ⟨hstem, hext⟩ := Prod.mk.inj hparts
  exact ⟨String.toList_inj.mp hstem.symm, String.toList_inj.mp (Option.some.inj hext).symm⟩

/-- Writing a file at one path leaves what the other one reads as it was, in every store. -/
def Spares (q p : Path) : Prop :=
  ∀ (s s' : FileStore) (content : FileContent), s.write q content = .ok s' → s'.read p = s.read p

theorem NamedBy.spares (h : p.NamedBy stem ext) (h' : q.NamedBy stem' ext')
    (hparent : p.parent? = q.parent?) (hne : p.fileName? ≠ q.fileName?) : p.Spares q :=
  fun _ _ _ hwrite => FileStore.read_of_write_beside h'.fileName?_eq h.fileName?_eq hparent.symm
    (fun heq => hne (by rw [h.fileName?_eq, h'.fileName?_eq, heq])) hwrite

/-- Attempts on paths that spare a file leave it as it reads. -/
theorem read_foldl_of_spares {log : List Attempt} (h : ∀ a ∈ log, a.path.Spares p)
    (files : FileStore) : (log.foldl Attempt.carryOut files).read p = files.read p := by
  induction log generalizing files with
  | nil => rfl
  | cons a rest ih =>
      obtain ⟨ha, hrest⟩ := List.forall_mem_cons.mp h
      rw [List.foldl_cons, ih hrest, Attempt.carryOut]
      split
      · exact ha _ _ _ ‹_›
      · rfl

end Path

/-! ## The derived paths -/

namespace CommandLine

/-- The table and the report of a run lie in the folder of its input, under names made from
the input's, and the three files have different names. -/
structure BesideInput (input output report : Path) : Prop where
  folder : ∃ folder, input.parent? = some folder ∧ output.parent? = some folder ∧
    report.parent? = some folder
  named : ∃ stem ext, input.stem? = some stem ∧ input.extension? = some ext ∧
    output.fileName? = some (stem ++ "_categorized." ++ ext) ∧
    report.fileName? = some (stem ++ "_occupancy.json")
  fileNames : [input.fileName?, output.fileName?, report.fileName?].Nodup

theorem BesideInput.nodup {input output report : Path} (h : BesideInput input output report) :
    [input, output, report].Nodup :=
  List.Nodup.of_map Path.fileName? h.fileNames

variable {c : CommandLine} {input : Path} {format : FileFormat} {stem ext : String}

theorem append_categorized (stem ext : String) :
    stem ++ "_categorized" ++ "." ++ ext = stem ++ "_categorized." ++ ext := by
  simp [← String.toList_inj]

theorem append_occupancy (stem : String) :
    stem ++ "_occupancy" ++ "." ++ "json" = stem ++ "_occupancy.json" := by
  simp [← String.toList_inj]

theorem outputPath?_of_namedBy (hinput : c.input = some input) (houtput : c.output = none)
    (h : input.NamedBy stem ext) {folder : Path} (hfolder : input.parent? = some folder) :
    c.outputPath? = some (folder.join (stem ++ "_categorized" ++ "." ++ ext)) := by
  rw [outputPath?, hinput, houtput, Option.map_some, Option.getD_none, h.stem?_eq,
    h.extension?_eq, folderOf, hfolder, append_categorized]
  rfl

theorem occupancyPath?_of_namedBy (hinput : c.input = some input) (h : input.NamedBy stem ext)
    {folder : Path} (hfolder : input.parent? = some folder) :
    c.occupancyPath? = some (folder.join (stem ++ "_occupancy" ++ "." ++ "json")) := by
  rw [occupancyPath?, hinput, Option.bind_some, h.stem?_eq, Option.map_some, folderOf, hfolder,
    append_occupancy]
  rfl

/-- The paths that a run derives from an input of a supported format. -/
structure Derived (c : CommandLine) (input output report : Path) (format : FileFormat)
    (stem ext : String) : Prop where
  input_named : input.NamedBy stem ext
  output_eq : c.outputPath? = some output
  report_eq : c.occupancyPath? = some report
  output_named : output.NamedBy (stem ++ "_categorized") ext
  report_named : report.NamedBy (stem ++ "_occupancy") "json"
  ext_lower : ext.toList.map Char.toLower = format.extension.toList
  folder : ∃ folder, input.parent? = some folder ∧ output.parent? = some folder ∧
    report.parent? = some folder

theorem exists_derived (hinput : c.input = some input) (houtput : c.output = none)
    (hformat : FileFormat.ofPath? input = some format) :
    ∃ output report stem ext, c.Derived input output report format stem ext := by
  obtain ⟨ext, hext, hlower⟩ := FileFormat.ofPath?_eq_some_iff.mp hformat
  obtain ⟨stem, hnamed⟩ := Path.extension?_eq_some_iff.mp hext
  obtain ⟨folder, hfolder, hjoin⟩ := Path.exists_folder hnamed.fileName?_eq
  obtain ⟨houtputParent, houtputNamed⟩ := hnamed.beside hjoin "_categorized" ext (by decide)
    ⟨hnamed.slash_notMem.2, hnamed.dot_notMem⟩
  obtain ⟨hreportParent, hreportNamed⟩ := hnamed.beside hjoin "_occupancy" "json" (by decide)
    (by decide)
  exact ⟨_, _, stem, ext, hnamed, outputPath?_of_namedBy hinput houtput hnamed hfolder,
    occupancyPath?_of_namedBy hinput hnamed hfolder, houtputNamed, hreportNamed, hlower, folder,
    hfolder, houtputParent, hreportParent⟩

namespace Derived

variable {output report : Path}

theorem ofPath?_output (h : c.Derived input output report format stem ext) :
    FileFormat.ofPath? output = some format :=
  FileFormat.ofPath?_eq_some_iff.mpr ⟨ext, h.output_named.extension?_eq, h.ext_lower⟩

theorem ext_ne_json (h : c.Derived input output report format stem ext) : ext ≠ "json" := by
  rintro rfl
  have hlower := h.ext_lower
  cases format
  · exact absurd hlower (by decide)
  · exact absurd hlower (by decide)

theorem output_ne_input (h : c.Derived input output report format stem ext) :
    input.fileName? ≠ output.fileName? := by
  intro heq
  have hstem := congrArg String.toList (h.input_named.unique h.output_named heq).1
  simp at hstem

theorem report_ne_input (h : c.Derived input output report format stem ext) :
    input.fileName? ≠ report.fileName? := fun heq =>
  h.ext_ne_json (h.input_named.unique h.report_named heq).2

theorem report_ne_output (h : c.Derived input output report format stem ext) :
    output.fileName? ≠ report.fileName? := fun heq =>
  h.ext_ne_json (h.output_named.unique h.report_named heq).2

theorem besideInput (h : c.Derived input output report format stem ext) :
    BesideInput input output report where
  folder := h.folder
  named := ⟨stem, ext, h.input_named.stem?_eq, h.input_named.extension?_eq,
    by rw [h.output_named.fileName?_eq, append_categorized],
    by rw [h.report_named.fileName?_eq, append_occupancy]⟩
  fileNames := by simp [h.output_ne_input, h.report_ne_input, h.report_ne_output]

theorem output_spares_input (h : c.Derived input output report format stem ext) :
    output.Spares input := by
  obtain ⟨folder, hinput, houtput, -⟩ := h.folder
  exact h.output_named.spares h.input_named (houtput.trans hinput.symm) h.output_ne_input.symm

theorem report_spares_input (h : c.Derived input output report format stem ext) :
    report.Spares input := by
  obtain ⟨folder, hinput, -, hreport⟩ := h.folder
  exact h.report_named.spares h.input_named (hreport.trans hinput.symm) h.report_ne_input.symm

theorem report_spares_output (h : c.Derived input output report format stem ext) :
    report.Spares output := by
  obtain ⟨folder, -, houtput, hreport⟩ := h.folder
  exact h.report_named.spares h.output_named (hreport.trans houtput.symm) h.report_ne_output.symm

/-- A run whose pairs go nowhere leaves its input as it reads. -/
theorem read_input_after_run (h : c.Derived input output report format stem ext)
    {args : List String} (parsed : parse args = .ok c) (bare : c.command = none)
    (hpairs : c.pairsOutput = none) (w : World) :
    (Command.after w c.run).files.read input = w.files.read input := by
  rcases stopped_or_reaches c (mixingDepth_ne_zero parsed) w with
    ⟨f, hstopped⟩ | ⟨plan, t, pooling, hplan, hplanned, hreaches, -⟩
  · rw [files_of_course (course_run_of_stopped bare hstopped)]
    rfl
  · obtain ⟨o, table, mixed, report', hcourse, horder, -⟩ :=
      RunPlan.course_saveStep w plan t pooling
    rw [files_of_course ((course_run_of_reaches bare hplan hreaches).trans hcourse)]
    refine Path.read_foldl_of_spares (fun a ha => ?_) w.files
    rcases List.mem_append.mp ha with ha | ha
    · rcases List.mem_append.mp ha with ha | ha
      · have hpath : some a.path = some output := by
          rw [horder.table_path a ha, ← hplanned.output_eq, h.output_eq]
        rw [Option.some.inj hpath]
        exact h.output_spares_input
      · have hpath := horder.mixed_path a ha
        rw [hplanned.pairs_eq, hpairs] at hpath
        cases hpath
    · have hpath := (horder.report_path a ha).2
      rw [hplanned.report_eq, h.report_eq] at hpath
      rw [← Option.some.inj hpath]
      exact h.report_spares_input

end Derived

/-! ## A run that is refused for its pairs -/

/-- The command line that asks for the mixed pairs as a text. -/
def pairsAsText : CommandLine where
  input := some ⟨"events.v2.CSV"⟩
  config := some ⟨"mixing.json"⟩
  pairsOutput := some ⟨"pairs.txt"⟩

theorem parse_pairsAsText :
    parse ["-i", "events.v2.CSV", "-c", "mixing.json", "--pairs-output", "pairs.txt"] =
      .ok pairsAsText := by
  decide +kernel

theorem oneRow_refuses_text : ∃ plan t, outcome oneRow pairsAsText.plan = .ok plan ∧
    outcome oneRow (Table.loadEvents plan.input plan.used plan.inferRows) = .ok t ∧
    outcome oneRow pairsAsText.run = .error (unsupportedOutput "txt") := by
  obtain ⟨plan, t, pooling, hplan, hreaches, houtput, hcontent, -⟩ :=
    exists_reaches_oneRow (c := pairsAsText) rfl rfl rfl rfl rfl
  obtain ⟨t₀, -, hloaded, hchecked, -⟩ := hreaches.exists_categories
  obtain ⟨hsaved, -⟩ := Table.outcome_save_of_write hcontent oneRow_writes
  rw [← houtput] at hsaved
  refine ⟨plan, t₀, hplan, ?_, ?_⟩
  · rw [outcome_loadEvents, hloaded, Except.bind, hchecked]
    rfl
  · have hextension : FileFormat.extensionOf ⟨"pairs.txt"⟩ = "txt" := by decide +kernel
    rw [← hextension]
    exact outcome_run_of_pairs_format rfl hplan hreaches hsaved (planned_of_plan hplan).pairs_eq
      (by decide +kernel)

/-! ## What a run derives -/

/-- Unless it is told otherwise, a run puts its table and its report beside the input, each
under a name of its own made from the input's, so that writing them leaves the input as it
reads. The table keeps the format of the input, and only the path of the pairs can be refused
for its format once the input has been loaded. Inputs with different names get different paths
for their tables. -/
theorem derived_paths_beside_input (hinput : c.input = some input)
    (hformat : FileFormat.ofPath? input = some format) (houtput : c.output = none) :
    ∃ output report,
      c.outputPath? = some output ∧ c.occupancyPath? = some report ∧
      BesideInput input output report ∧ [input, output, report].Nodup ∧
      (output.Spares input ∧ report.Spares input ∧ report.Spares output) ∧
      FileFormat.ofPath? output = some format ∧
      (∃ ext, input.extension? = some ext ∧
        ext.toList.map Char.toLower = format.extension.toList) ∧
      (∀ args w, parse args = .ok c → c.command = none →
        (c.pairsOutput = none →
          (Command.after w c.run).files.read input = w.files.read input) ∧
        ∀ plan t ext, outcome w c.plan = .ok plan →
          outcome w (Table.loadEvents plan.input plan.used plan.inferRows) = .ok t →
          outcome w c.run = .error (unsupportedOutput ext) →
          ∃ path, c.pairsOutput = some path ∧ FileFormat.ofPath? path = none ∧
            ext = FileFormat.extensionOf path) ∧
      ∀ (c' : CommandLine) input' format', c'.input = some input' →
        FileFormat.ofPath? input' = some format' → c'.output = none →
        input'.fileName? ≠ input.fileName? → c'.outputPath? ≠ some output := by
  obtain ⟨output, report, stem, ext, h⟩ := exists_derived hinput houtput hformat
  refine ⟨output, report, h.output_eq, h.report_eq, h.besideInput, h.besideInput.nodup,
    ⟨h.output_spares_input, h.report_spares_input, h.report_spares_output⟩, h.ofPath?_output,
    ⟨ext, h.input_named.extension?_eq, h.ext_lower⟩, fun args w parsed bare => ⟨?_, ?_⟩, ?_⟩
  · exact fun hpairs => h.read_input_after_run parsed bare hpairs w
  · intro plan t ext' hplan hload hrefused
    have hplanOutput : plan.output = output :=
      Option.some.inj ((planned_of_plan hplan).output_eq.symm.trans h.output_eq)
    exact refuses_pairs_of_run (mixingDepth_ne_zero parsed) bare hplan
      (by rw [hplanOutput, h.ofPath?_output]; simp) hload hrefused
  · intro c' input' format' hinput' hformat' houtput' hne heq
    obtain ⟨output', _, stem', ext', h'⟩ := exists_derived hinput' houtput' hformat'
    obtain rfl := Option.some.inj (h'.output_eq.symm.trans heq)
    obtain ⟨hstem, rfl⟩ := h'.output_named.unique h.output_named rfl
    have hstem : stem' = stem := by simpa using hstem
    exact hne (by rw [h'.input_named.fileName?_eq, h.input_named.fileName?_eq, hstem])

/-- A name with two dots and an extension in capitals, and a run that is refused for the pairs'
path. -/
theorem derived_paths_beside_input_dotted :
    BesideInput ⟨"events.v2.CSV"⟩ ⟨"events.v2_categorized.CSV"⟩ ⟨"events.v2_occupancy.json"⟩ ∧
      Path.Spares ⟨"events.v2_categorized.CSV"⟩ ⟨"events.v2.CSV"⟩ ∧
      FileFormat.ofPath? ⟨"events.v2_categorized.CSV"⟩ = some .csv ∧
      outputPath? { input := some ⟨"events.v2.csv"⟩ } ≠ some ⟨"events.v2_categorized.CSV"⟩ ∧
      ∃ path, pairsAsText.pairsOutput = some path ∧ FileFormat.ofPath? path = none := by
  have houtput : pairsAsText.outputPath? = some ⟨"events.v2_categorized.CSV"⟩ := by
    decide +kernel
  have hreport : pairsAsText.occupancyPath? = some ⟨"events.v2_occupancy.json"⟩ := by
    decide +kernel
  obtain ⟨output, report, houtputEq, hreportEq, hbeside, -, hspares, hformat, -, hrun, hother⟩ :=
    derived_paths_beside_input (c := pairsAsText) rfl
      (show FileFormat.ofPath? ⟨"events.v2.CSV"⟩ = some .csv by decide +kernel) rfl
  obtain rfl := Option.some.inj (houtput.symm.trans houtputEq)
  obtain rfl := Option.some.inj (hreport.symm.trans hreportEq)
  obtain ⟨plan, t, hplan, hload, hrefused⟩ := oneRow_refuses_text
  obtain ⟨path, hpath, hunsupported, -⟩ :=
    (hrun _ oneRow parse_pairsAsText rfl).2 plan t "txt" hplan hload hrefused
  exact ⟨hbeside, hspares.1, hformat,
    hother _ ⟨"events.v2.csv"⟩ .csv rfl (by decide +kernel) rfl (by decide +kernel), path, hpath,
    hunsupported⟩

/-- Without a path for its table, and past loading, a run can still fail for a format. -/
theorem run_refused_for_pairs_format :
    parse ["-i", "events.v2.CSV", "-c", "mixing.json", "--pairs-output", "pairs.txt"] =
        .ok pairsAsText ∧
      pairsAsText.command = none ∧ pairsAsText.output = none ∧
      FileFormat.ofPath? ⟨"events.v2.CSV"⟩ = some .csv ∧
      ∃ plan t, outcome oneRow pairsAsText.plan = .ok plan ∧
        outcome oneRow (Table.loadEvents plan.input plan.used plan.inferRows) = .ok t ∧
        outcome oneRow pairsAsText.run = .error (unsupportedOutput "txt") :=
  ⟨parse_pairsAsText, rfl, rfl, by decide +kernel, oneRow_refuses_text⟩

end CommandLine

end EventMixing
