import Mathlib.Data.List.Sort
import EventMixing.Proofs.FirstFailure
import EventMixing.Proofs.Loading
import EventMixing.Proofs.Registration

/-!
# Columns that are missing or no numbers

The variables in use are gone through twice: once to see that each has a column, which
tells of all that have none (`checkColumns_eq_error_iff`), and once to read the columns,
which stops at the first that is missing or cannot be read (`observables_eq_error_iff`).
Either way they come in the order of their declaration.

A table that has passed the check lacks no column, so that reading it fails for columns
without numbers only; `check_agrees_with_reading` puts the two side by side.
-/

namespace EventMixing

namespace Table

variable {t : Table} {used : VariableSet} {v : Variable} {f : Failure}

/-- The variable's column cannot be read as doubles. -/
def Uncastable (t : Table) (v : Variable) : Prop :=
  ∃ c, t.column? v.name = some c ∧ c.data.toDoubles? = none

/-- What is reported of a variable without a column. -/
def notFound (v : Variable) : String := "Observable column '" ++ v.name ++ "' not found"

/-- What is reported of a variable whose column cannot be read. -/
def notNumeric (v : Variable) : String :=
  "Observable column '" ++ v.name ++ "' must be numeric (cannot cast to Float64)"

theorem getLast?_append {s last : String} {c : Char} (h : last.toList.getLast? = some c) :
    (s ++ last).toList.getLast? = some c := by
  rw [String.toList_append, List.getLast?_append, h]
  rfl

/-- The two reports end differently, whatever their variables. -/
theorem notNumeric_ne_notFound (v w : Variable) : notNumeric v ≠ notFound w := by
  intro h
  have hnumeric : (notNumeric v).toList.getLast? = some ')' := getLast?_append (by decide +kernel)
  have hfound : (notFound w).toList.getLast? = some 'd' := getLast?_append (by decide +kernel)
  rw [h, hfound] at hnumeric
  cases hnumeric

theorem column?_eq_none_iff {name : String} : t.column? name = none ↔ name ∉ t.names := by
  rw [column?, List.find?_eq_none, names, List.mem_map]
  constructor
  · rintro h ⟨c, hc, rfl⟩
    exact h c hc (beq_self_eq_true c.name)
  · intro h c hc heq
    exact h ⟨c, hc, eq_of_beq heq⟩

theorem unreadable_iff_uncastable : t.Unreadable v ↔ v.name ∉ t.names ∨ t.Uncastable v := by
  rw [Unreadable, column?_eq_none_iff, Uncastable]

/-- Columns of lists are the ones that cannot be read, unless they hold none. -/
theorem uncastable_iff : t.Uncastable v ↔ ∃ c values items, t.column? v.name = some c ∧
    c.data = .list values ∧ some items ∈ values := by
  simp only [Uncastable, ColumnData.toDoubles?_eq_none_iff, exists_and_left]

/-! ## The check -/

/-- The variables in use without a column, in the order of their declaration. -/
def missing (t : Table) (used : VariableSet) : List Variable :=
  used.toList.filter (·.name ∉ t.names)

theorem mem_missing_iff : v ∈ t.missing used ↔ used.contains v = true ∧ v.name ∉ t.names := by
  simp [missing, VariableSet.mem_toList]

theorem missing_ascending (t : Table) (used : VariableSet) :
    (t.missing used).Pairwise (·.index < ·.index) :=
  (VariableSet.toList_ascending used).filter _

/-- The check passes where nothing is missing, and tells of all that is. -/
theorem checkColumns_eq (t : Table) (used : VariableSet) :
    t.checkColumns used = if t.missing used = [] then .ok ()
      else .refuse ("Observable column(s) " ++ quotedList ((t.missing used).map (·.name))
        ++ " not found in dataset. Available columns: " ++ quotedList t.names) := by
  have hmissing : (used.toList.map (·.name)).filter (fun name => (t.column? name).isNone)
      = (t.missing used).map (·.name) := by
    rw [List.filter_map, missing]
    congr 2
    funext v
    rw [Bool.eq_iff_iff]
    simp [column?_eq_none_iff]
  simp only [checkColumns, hmissing, List.isEmpty_map, List.isEmpty_iff]

theorem checkColumns_eq_ok_iff :
    t.checkColumns used = .ok () ↔ ∀ v, used.contains v = true → v.name ∈ t.names := by
  have hnone : t.missing used = [] ↔ ∀ v, used.contains v = true → v.name ∈ t.names := by
    rw [List.eq_nil_iff_forall_not_mem]
    simp only [mem_missing_iff, not_and, Decidable.not_not]
  rw [checkColumns_eq, ← hnone]
  split
  · exact iff_of_true rfl ‹_›
  · exact iff_of_false nofun ‹_›

theorem checkColumns_eq_error_iff :
    t.checkColumns used = .error f ↔ t.missing used ≠ [] ∧
      f = ⟨[], .refused ("Observable column(s) " ++ quotedList ((t.missing used).map (·.name))
        ++ " not found in dataset. Available columns: " ++ quotedList t.names)⟩ := by
  rw [checkColumns_eq]
  split
  · exact iff_of_false nofun fun h => h.1 ‹_›
  · rw [Outcome.refuse, Except.error.injEq, eq_comm]
    exact (and_iff_right ‹_›).symm

theorem exists_checkColumns_error_iff :
    (∃ f, t.checkColumns used = .error f) ↔ ∃ v, used.contains v = true ∧ v.name ∉ t.names := by
  have hsome : t.missing used ≠ [] ↔ ∃ v, used.contains v = true ∧ v.name ∉ t.names := by
    simp only [← mem_missing_iff]
    exact ⟨List.exists_mem_of_ne_nil _, fun ⟨_, hv⟩ => List.ne_nil_of_mem hv⟩
  simp only [checkColumns_eq_error_iff, exists_and_left, exists_eq, and_true, hsome]

/-! ## Reading -/

/-- Why a variable cannot be read. -/
theorem contexts_of_doublesOf (h : t.doublesOf v = .error f) :
    v.name ∉ t.names ∧ f.contexts = [notFound v] ∨
      t.Uncastable v ∧ f.contexts = [notNumeric v] := by
  unfold doublesOf at h
  split at h
  · rename_i hnone
    obtain rfl := Except.error.inj h
    exact Or.inl ⟨column?_eq_none_iff.mp hnone, rfl⟩
  · rename_i c hc
    split at h
    · rename_i hdoubles
      obtain rfl := Except.error.inj h
      exact Or.inr ⟨⟨c, hc, hdoubles⟩, rfl⟩
    · cases h

theorem readVariables_eq_error_iff {vs : List Variable} {rows : List Observables} :
    t.readVariables rows vs = .error f ↔ ∃ before v, FailsFirst t.doublesOf vs before v f := by
  induction vs generalizing rows with
  | nil => exact iff_of_false nofun fun ⟨_, _, h⟩ => h.not_nil
  | cons first rest ih =>
      rw [readVariables]
      cases hfirst : t.doublesOf first with
      | ok values =>
          simp only [ih, FailsFirst.cons_iff_of_ok hfirst]
          constructor
          · rintro ⟨before, v, hfails⟩
            exact ⟨_, v, before, rfl, hfails⟩
          · rintro ⟨_, v, before, -, hfails⟩
            exact ⟨before, v, hfails⟩
      | error e => simp [FailsFirst.cons_iff_of_error hfirst]

/-- Reading fails with the failure of the first variable in use that cannot be read, in the
order of declaration. -/
theorem observables_eq_error_iff :
    t.observables used = .error f ↔ ∃ v, used.contains v = true ∧ t.doublesOf v = .error f ∧
      ∀ w, used.contains w = true → w.index < v.index → ¬ t.Unreadable w := by
  rw [observables, readVariables_eq_error_iff, exists_comm]
  refine exists_congr fun v => ?_
  rw [FailsFirst.exists_before_iff (·.index.val) (VariableSet.toList_ascending used)]
  simp only [VariableSet.mem_toList, unreadable_iff, Classical.not_not]
  rfl

/-- The first variable that cannot be read is named, and what is wrong with it. -/
theorem contexts_of_observables (h : t.observables used = .error f) :
    ∃ v, used.contains v = true ∧
      (v.name ∉ t.names ∧ f.contexts = [notFound v] ∨
        t.Uncastable v ∧ f.contexts = [notNumeric v]) ∧
      ∀ w, used.contains w = true → w.index < v.index → w.name ∈ t.names ∧ ¬ t.Uncastable w := by
  obtain ⟨v, hused, hdoubles, hbefore⟩ := observables_eq_error_iff.mp h
  refine ⟨v, hused, contexts_of_doublesOf hdoubles, fun w hw hlt => ?_⟩
  have hreadable := hbefore w hw hlt
  rw [unreadable_iff_uncastable, not_or, Decidable.not_not] at hreadable
  exact hreadable

/-! ## The check and reading -/

/-- After the check only what a column holds can be wrong with it. -/
theorem contexts_of_checked (hcheck : t.checkColumns used = .ok ())
    (h : t.observables used = .error f) :
    ∃ v, used.contains v = true ∧ t.Uncastable v ∧ f.contexts = [notNumeric v] ∧
      ∀ w, used.contains w = true → w.index < v.index → ¬ t.Uncastable w := by
  obtain ⟨v, hused, hwhy, hbefore⟩ := contexts_of_observables h
  rcases hwhy with ⟨hmissing, -⟩ | ⟨huncastable, hcontexts⟩
  · exact absurd (checkColumns_eq_ok_iff.mp hcheck v hused) hmissing
  · exact ⟨v, hused, huncastable, hcontexts, fun w hw hlt => (hbefore w hw hlt).2⟩

/-- Loading passes a table on once it is checked. The check fails where a variable in use has no
column, and lists all of these in the order of declaration, and all columns that there are.
After the check no column is reported as missing: reading fails where a column in use cannot
be read as doubles, and for the first of these. Without the check it fails at the first
variable that has no column or one that cannot be read. -/
theorem check_agrees_with_reading (t : Table) (used : VariableSet) :
    (∀ w path inferRows, Command.outcome w (loadEvents path used inferRows)
      = (Command.outcome w (load path inferRows)).bind fun loaded =>
        (loaded.checkColumns used).map fun _ => loaded) ∧
    ((∃ f, t.checkColumns used = .error f) ↔
      ∃ v, used.contains v = true ∧ v.name ∉ t.names) ∧
    (∀ f, t.checkColumns used = .error f → ∃ missing : List Variable,
      (∀ v, v ∈ missing ↔ used.contains v = true ∧ v.name ∉ t.names) ∧
      missing.Pairwise (·.index < ·.index) ∧
      f = ⟨[], .refused ("Observable column(s) " ++ quotedList (missing.map (·.name))
        ++ " not found in dataset. Available columns: " ++ quotedList t.names)⟩) ∧
    (t.checkColumns used = .ok () →
      ((∃ f, t.observables used = .error f) ↔
        ∃ v, used.contains v = true ∧ t.Uncastable v) ∧
      ∀ f, t.observables used = .error f →
        (∀ v, f.contexts ≠ [notFound v]) ∧
        ∃ v, used.contains v = true ∧ t.Uncastable v ∧ f.contexts = [notNumeric v] ∧
          ∀ w, used.contains w = true → w.index < v.index → ¬ t.Uncastable w) ∧
    ((∃ f, t.observables used = .error f) ↔
      ∃ v, used.contains v = true ∧ (v.name ∉ t.names ∨ t.Uncastable v)) ∧
    ∀ f, t.observables used = .error f →
      ∃ v, used.contains v = true ∧
        (v.name ∉ t.names ∧ f.contexts = [notFound v] ∨
          t.Uncastable v ∧ f.contexts = [notNumeric v]) ∧
        ∀ w, used.contains w = true → w.index < v.index →
          w.name ∈ t.names ∧ ¬ t.Uncastable w := by
  have hfails : (∃ f, t.observables used = .error f) ↔
      ∃ v, used.contains v = true ∧ (v.name ∉ t.names ∨ t.Uncastable v) := by
    simp only [exists_observables_error_iff, unreadable_iff_uncastable]
  refine ⟨fun w path inferRows => outcome_loadEvents w path used inferRows,
    exists_checkColumns_error_iff, fun f hf => ?_, fun hcheck => ⟨?_, fun f hf => ?_⟩, hfails,
    fun f hf => contexts_of_observables hf⟩
  · exact ⟨t.missing used, fun v => mem_missing_iff, missing_ascending t used,
      (checkColumns_eq_error_iff.mp hf).2⟩
  · rw [hfails]
    refine exists_congr fun v => and_congr_right fun hused => ?_
    exact or_iff_right fun hmissing => hmissing (checkColumns_eq_ok_iff.mp hcheck v hused)
  · obtain ⟨v, hused, huncastable, hcontexts, hbefore⟩ := contexts_of_checked hcheck hf
    refine ⟨fun w hw => ?_, v, hused, huncastable, hcontexts, hbefore⟩
    exact notNumeric_ne_notFound v w (List.head_eq_of_cons_eq (hcontexts.symm.trans hw))

/-- One event with a vertex that is a list and an index of its own. -/
def listed : Table where
  columns := [⟨"vtx_z", .list [some []]⟩, ⟨"event", .integer .i64 [some 7]⟩]
  sized := by decide
  distinct := by decide

/-- With the vertex alone in use the check passes and its column cannot be read. With the
variables on either side of it in use as well, the check lists both, and reading stops at the
first. -/
theorem check_agrees_with_reading_listed :
    (∃ f, listed.checkColumns (VariableSet.empty.insert .vtxZ) = .ok () ∧
      listed.observables (VariableSet.empty.insert .vtxZ) = .error f ∧
      f.contexts = [notNumeric .vtxZ]) ∧
    ∃ f f', listed.checkColumns (((VariableSet.empty.insert .psi2).insert .vtxZ).insert .vtxX)
        = .error f ∧ f.cause = .refused ("Observable column(s) [\"vtx_x\", \"psi2\"] not found "
          ++ "in dataset. Available columns: [\"vtx_z\", \"event\"]") ∧
      listed.observables (((VariableSet.empty.insert .psi2).insert .vtxZ).insert .vtxX)
        = .error f' ∧ f'.contexts = [notFound .vtxX] := by
  constructor
  · obtain ⟨-, -, -, hchecked, -⟩ :=
      check_agrees_with_reading listed (VariableSet.empty.insert .vtxZ)
    have hcheck : listed.checkColumns (VariableSet.empty.insert .vtxZ) = .ok () := by
      decide +kernel
    obtain ⟨hiff, hfirst⟩ := hchecked hcheck
    obtain ⟨f, hf⟩ := hiff.mpr ⟨.vtxZ, by decide,
      uncastable_iff.mpr ⟨_, _, [], rfl, rfl, List.mem_cons_self⟩⟩
    obtain ⟨-, v, hused, -, hcontexts, -⟩ := hfirst f hf
    obtain rfl : v = .vtxZ := by revert hused; cases v <;> decide
    exact ⟨f, hcheck, hf, hcontexts⟩
  · obtain ⟨-, hmissing, hlist, -, hreading, hfirst⟩ := check_agrees_with_reading listed
      (((VariableSet.empty.insert .psi2).insert .vtxZ).insert .vtxX)
    obtain ⟨f, hf⟩ := hmissing.mpr ⟨.psi2, by decide, by decide⟩
    obtain ⟨f', hf'⟩ := hreading.mpr ⟨.psi2, by decide, Or.inl (by decide)⟩
    refine ⟨f, f', hf, ?_, hf', ?_⟩
    · obtain ⟨missing, hmem, hascending, rfl⟩ := hlist f hf
      have : Std.Irrefl fun v w : Variable => v.index < w.index := ⟨fun v => Nat.lt_irrefl _⟩
      have : Std.Antisymm fun v w : Variable => v.index < w.index :=
        ⟨fun v w hlt hlt' => absurd hlt' (Nat.lt_asymm hlt)⟩
      obtain rfl : missing = [.vtxX, .psi2] :=
        hascending.eq_of_mem_iff (by decide) fun v => (hmem v).trans (by cases v <;> decide)
      decide +kernel
    · obtain ⟨v, hused, hwhy, hbefore⟩ := hfirst f' hf'
      obtain rfl : v = .vtxX := by
        by_contra hne
        have hlt : Variable.vtxX.index < v.index := by revert hne; cases v <;> decide
        exact absurd (hbefore .vtxX (by decide) hlt).1 (by decide)
      rcases hwhy with ⟨-, hcontexts⟩ | ⟨⟨c, hc, -⟩, -⟩
      · exact hcontexts
      · cases hc

end Table

end EventMixing
