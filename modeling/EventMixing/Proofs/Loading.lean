import EventMixing.Proofs.Arguments
import EventMixing.Proofs.CategoryColumn
import EventMixing.Proofs.Effects

/-!
# Reading tables and configurations

Looking for the files of a table and reading them changes nothing, and neither does reading
a configuration and setting up its grid. What that comes to is said by `outcome_loadEvents`
for a table, by `MixingConfig.outcome_load` for a configuration and by
`MixingConfig.outcome_setUp` for a grid. None of it fails for pools that keep nothing, and a
configuration that is read does not ask for such pools.
-/

namespace EventMixing

open Command (outcome)

/-! ## Commands that only read -/

namespace Command.ReadsOnly

theorem entries (folder : Path) : ReadsOnly (Expansion.entries folder) :=
  .bind (.listFolder folder) fun names =>
    .mapM (fun _ => .bind (.inspect? _) fun _ => .pure _) names

theorem filesBelow (levels : Nat) (folders : List Path) :
    ReadsOnly (Expansion.filesBelow levels folders) := by
  fun_induction Expansion.filesBelow levels folders with
  | case1 => exact .pure _
  | case2 => exact .pure _
  | case3 levels folders _ ih =>
      exact .bind (.mapM entries _) fun _ => .bind (ih _) fun _ => .pure _

theorem search (levels : Nat) (parts : List Glob.Part) (here : Path) :
    ReadsOnly (Expansion.search levels parts here) := by
  fun_induction Expansion.search levels parts here with
  | case1 => exact .pure _
  | case2 levels here text rest isDots ih =>
      refine .bind (.inspect? _) fun _ => ?_
      split
      · exact .pure _
      · exact ih
  | case3 levels here items rest ihDots ih =>
      refine .bind (.inspect? _) fun _ => ?_
      split
      · exact .pure _
      · exact .bind (.mapM ihDots _) fun _ => .bind (.listFolder _) fun _ =>
          .bind (.mapM ih _) fun _ => .pure _
  | case4 => exact .pure _
  | case5 here rest levels ih ihDirect =>
      refine .bind (.inspect? _) fun _ => ?_
      split
      · exact .pure _
      · refine .bind (.listFolder _) fun _ => .bind (.mapM (fun name => ?_) _) fun _ => .pure _
        have hdeeper : ∀ direct : List Path, ReadsOnly (do
            return direct ++
              (← Expansion.search levels (.anyDepth :: rest) (Expansion.step here name))) :=
          fun _ => .bind (ih name) fun _ => .pure _
        cases rest with
        | nil => exact .bind (.pure _) hdeeper
        | cons next rest' =>
            dsimp only
            split
            · exact .bind (ihDirect name) hdeeper
            · exact .bind (.pure _) hdeeper

theorem ofFolder (folder : Path) : ReadsOnly (Expansion.ofFolder folder) := by
  refine .bind (filesBelow _ _) fun _ => ?_
  dsimp only
  split
  · exact .ofOutcome _
  · exact .pure _

theorem ofPattern (pattern : Path) : ReadsOnly (Expansion.ofPattern pattern) := by
  unfold Expansion.ofPattern
  split
  · exact .ofOutcome _
  · split
    · exact .pure _
    · exact .bind (search _ _ _) fun _ =>
        .bind (.mapM (fun _ => .bind (.inspect? _) fun _ => .pure _) _) fun _ => .pure _

theorem expand (p : Path) : ReadsOnly p.expand := by
  have hfound : ∀ found : List Path × Nat, ReadsOnly (
      if found.1.isEmpty then Command.ofOutcome (.tableFault "the path leads to no file")
      else return (⟨found.1, found.2⟩ : Expansion)) := by
    intro found
    split
    · exact .ofOutcome _
    · exact .pure _
  refine .bind (.inspect? p) fun kind => ?_
  dsimp only
  split
  · exact .bind (ofFolder p) fun _ => .bind (.pure _) hfound
  · split
    · exact .bind (ofPattern p) fun _ => .bind (.pure _) hfound
    · exact .bind (.pure _) hfound

theorem loadTable (path : Path) (inferRows : Nat) : ReadsOnly (Table.load path inferRows) := by
  unfold Table.load
  split
  · exact .ofOutcome _
  · exact .within (.adapt (.bind (expand path) fun _ =>
      .bind (.mapM .readFile _) fun _ => .ofOutcome _) _) _

theorem loadEvents (path : Path) (used : VariableSet) (inferRows : Nat) :
    ReadsOnly (Table.loadEvents path used inferRows) :=
  .bind (loadTable path inferRows) fun _ => .bind (.ofOutcome _) fun _ => .pure _

theorem loadConfig (path : Path) : ReadsOnly (MixingConfig.load path) :=
  .bind (.within (.bind (.readFile path) fun _ => .ofOutcome _) _) fun _ =>
    .within (.ofOutcome _) _

theorem setUp (c : MixingConfig) : ReadsOnly c.setUp := by
  have hgrid : ∀ (grid : Outcome Grid) (used : VariableSet),
      ReadsOnly (do return (← Command.ofOutcome grid, used)) :=
    fun _ _ => .bind (.ofOutcome _) fun _ => .pure _
  unfold MixingConfig.setUp
  split
  dsimp only
  split
  · exact hgrid _ _
  · exact .bind (.warned _) fun _ => hgrid _ _

end Command.ReadsOnly

/-! ## Reading the table -/

section Tables

variable (w : World)

theorem outcome_loadEvents (path : Path) (used : VariableSet) (inferRows : Nat) :
    outcome w (Table.loadEvents path used inferRows) =
      (outcome w (Table.load path inferRows)).bind fun t =>
        (t.checkColumns used).map fun _ => t := by
  rw [Table.loadEvents, Command.outcome_bind_of_readsOnly (.loadTable ..)]
  cases outcome w (Table.load path inferRows) with
  | error f => rfl
  | ok t =>
      dsimp only [Except.bind]
      rw [Command.outcome_bind_of_readsOnly (.ofOutcome _), Command.outcome_ofOutcome]
      cases t.checkColumns used <;> rfl

/-- A path without a pattern to a file stands for that file. -/
theorem outcome_expand_of_file {path : Path} {key : List String} {content : FileContent}
    (hplain : path.text.toList.any Glob.isSpecial = false)
    (hfile : w.files.resolve path = .ok (.file key content)) :
    outcome w path.expand = .ok ⟨[path], 0⟩ := by
  have hinspect : outcome w (Command.inspect? path) = .ok (some (.file content.isEmpty)) := by
    have h : w.files.inspect path = .ok (.file content.isEmpty) := by
      rw [FileStore.inspect, hfile]
    calc outcome w (Command.inspect? path) = .ok (w.files.inspect path).toOption := rfl
      _ = .ok (some (.file content.isEmpty)) := by rw [h]; rfl
  unfold Path.expand
  dsimp only
  rw [hplain, Command.outcome_bind_of_readsOnly (.inspect? path), hinspect]
  rfl

/-- A CSV file is loaded as the table that its text makes. -/
theorem outcome_load_of_file {path : Path} {key : List String} {text : String} {t : Table}
    {inferRows : Nat} (hformat : FileFormat.ofPath? path = some .csv)
    (hplain : path.text.toList.any Glob.isSpecial = false)
    (hfile : w.files.resolve path = .ok (.file key (.text text)))
    (ht : Table.ofTexts inferRows [.text text] = .ok t) :
    outcome w (Table.load path inferRows) = .ok t := by
  have hread : outcome w (Command.readFile path) = .ok (.text text) := by
    have h : w.files.read path = .ok (.text text) := by rw [FileStore.read, hfile]
    calc outcome w (Command.readFile path) = Outcome.ofFile (w.files.read path) := rfl
      _ = .ok (.text text) := by rw [h]; rfl
  unfold Table.load
  generalize FileFormat.ofPath? path = format at hformat ⊢
  subst hformat
  dsimp only
  rw [Command.within, Command.outcome_adapt, Command.outcome_adapt,
    Command.outcome_bind_of_readsOnly (.expand path), outcome_expand_of_file w hplain hfile]
  dsimp only [Except.bind]
  rw [Command.outcome_bind_of_readsOnly (.mapM .readFile _), List.mapM_cons,
    Command.outcome_bind_of_readsOnly (.readFile path), hread]
  dsimp only [Except.bind]
  rw [List.mapM_nil]
  change ((Table.ofTexts inferRows [.text text]).mapError _).mapError _ = .ok t
  rw [ht]
  rfl

theorem load_sparesDepth (path : Path) (inferRows : Nat) :
    (outcome w (Table.load path inferRows)).SparesDepth := by
  unfold Table.load
  generalize FileFormat.ofPath? path = format
  cases format with
  | none => exact .error (by simp)
  | some format =>
      dsimp only
      rw [Command.within, Command.outcome_adapt, Command.outcome_adapt]
      refine .mapError fun f hf => ?_
      exact (Outcome.SparesDepth.mapError (fun _ _ => by simp) f hf :)

theorem checkColumns_sparesDepth (t : Table) (used : VariableSet) :
    (t.checkColumns used).SparesDepth := by
  unfold Table.checkColumns
  dsimp only
  split
  · exact .ok ()
  · exact .error (by simp)

theorem doublesOf_sparesDepth (t : Table) (v : Variable) : (t.doublesOf v).SparesDepth := by
  unfold Table.doublesOf
  split
  · exact .error (by simp)
  · split
    · exact .error (by simp)
    · exact .ok _

theorem readVariables_sparesDepth (t : Table) (vs : List Variable) (rows : List Observables) :
    (t.readVariables rows vs).SparesDepth := by
  induction vs generalizing rows with
  | nil => exact .ok rows
  | cons v rest ih =>
      rw [Table.readVariables]
      split
      · rename_i f hf
        exact .error (doublesOf_sparesDepth t v f hf)
      · exact ih _

theorem categorize_sparesDepth (t : Table) (g : Grid) (used : VariableSet) :
    (t.categorize g used).SparesDepth := by
  intro f hf
  exact readVariables_sparesDepth t _ _ f (Table.categorize_eq_error_iff.mp hf)

end Tables

/-! ## Reading the configuration -/

theorem ofFile_sparesDepth {α : Type} (result : Except FileFault α) :
    (Outcome.ofFile result).SparesDepth := by
  cases result with
  | ok a => exact .ok a
  | error fault => exact .error (by simp)

theorem ofMixing_sparesDepth {α : Type} {result : Except MixingError α}
    (h : result ≠ .error .zeroPoolDepth) : (Outcome.ofMixing result).SparesDepth := by
  cases result with
  | ok a => exact .ok a
  | error e => exact .error fun hcause => h (congrArg _ (Cause.mixing.inj hcause))

theorem Axis.ofEdges_ne_zeroPoolDepth (v : Variable) (edges : Array Double) :
    Axis.ofEdges v edges ≠ .error .zeroPoolDepth := by
  unfold Axis.ofEdges
  split
  · simp
  · split
    · simp
    · split <;> simp

theorem Blueprint.build_ne_zeroPoolDepth (b : Blueprint) : b.build ≠ .error .zeroPoolDepth := by
  unfold build
  split <;> simp

namespace MixingConfig

theorem ofText_sparesDepth (text : String) : (ofText text).SparesDepth := by
  unfold ofText
  split
  · exact .error (by simp)
  · split
    · exact .error (by simp)
    · exact .ok _

theorem outcome_load (w : World) (path : Path) :
    outcome w (load path) =
      (Outcome.within ("Failed to read mixing config: " ++ path.text)
        ((Outcome.ofFile (w.files.read path)).bind textOf)).bind fun text =>
          (ofText text).within ("Invalid mixing config: " ++ path.text) := by
  have hread : outcome w (Command.readFile path) = Outcome.ofFile (w.files.read path) := rfl
  rw [load, Command.outcome_bind_of_readsOnly
    (.within (.bind (.readFile path) fun _ => .ofOutcome _) _), Command.within,
    Command.outcome_adapt, Command.outcome_bind_of_readsOnly (.readFile path), hread]
  cases Outcome.ofFile (w.files.read path) with
  | error f => rfl
  | ok content =>
      dsimp only [Except.bind]
      rw [Command.outcome_ofOutcome]
      cases textOf content with
      | error f => rfl
      | ok text => exact Command.outcome_adapt w _ _

theorem load_sparesDepth (w : World) (path : Path) : (outcome w (load path)).SparesDepth := by
  rw [outcome_load]
  have htext : ∀ content, (textOf content).SparesDepth
    | .text s => .ok s
    | .table _ => .error (by simp)
  have hread : Outcome.SparesDepth ((Outcome.ofFile (w.files.read path)).bind textOf) :=
    .bind (ofFile_sparesDepth _) htext
  exact .bind (.within hread _) fun text => .within (ofText_sparesDepth text) _

theorem mixingDepth_ne_zero_of_load {w : World} {path : Path} {config : MixingConfig}
    (h : outcome w (load path) = .ok config) : config.mixingDepth ≠ some 0 := by
  rw [outcome_load] at h
  obtain ⟨text, -, h⟩ := exists_of_bind_eq_ok h
  cases htext : ofText text with
  | error f =>
      rw [htext] at h
      cases h
  | ok config' =>
      rw [htext] at h
      obtain rfl := Except.ok.inj h
      exact CommandLine.ne_zero_of_ofText htext

theorem registerAll_sparesDepth {ρ : Type} [VariableRegistry ρ] (axes : List AxisConfig)
    (b : Blueprint) (registry : ρ) (number : Nat) :
    (registerAll b registry number axes).1.SparesDepth := by
  induction axes generalizing b registry number with
  | nil => exact .ok b
  | cons axis rest ih =>
      rw [registerAll]
      split
      · exact ih _ _ _
      · rename_i e he
        refine .error fun hcause => ?_
        obtain rfl := Cause.mixing.inj hcause
        unfold Blueprint.register at he
        split at he
        · cases he
        · rename_i hedges
          obtain rfl := Except.error.inj he
          exact Axis.ofEdges_ne_zeroPoolDepth _ _ hedges

theorem toGrid_sparesDepth {ρ : Type} [VariableRegistry ρ] (c : MixingConfig) (registry : ρ) :
    (c.toGrid registry).1.SparesDepth := by
  have hblueprint := registerAll_sparesDepth c.axes .empty registry 1
  unfold toGrid toBlueprint
  split
  · exact ofMixing_sparesDepth (Blueprint.build_ne_zeroPoolDepth _)
  · rename_i f _ hf
    rw [hf] at hblueprint
    exact .error (hblueprint f rfl)

theorem outcome_setUp (w : World) (c : MixingConfig) :
    outcome w c.setUp = (c.toGrid VariableSet.empty).1.map
      (·, (c.toGrid VariableSet.empty).2) := by
  unfold MixingConfig.setUp
  split
  rename_i grid used heq
  dsimp only
  split
  · rw [heq]; cases grid <;> rfl
  · rw [heq]; cases grid <;> rfl

end MixingConfig

end EventMixing
