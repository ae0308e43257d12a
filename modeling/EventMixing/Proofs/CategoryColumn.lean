import EventMixing.Proofs.Cells
import EventMixing.Proofs.Reading

/-!
# The category column

Categorizing a table reads all that it needs before it changes anything. So it fails
exactly where a variable in use cannot be read (`exists_observables_error_iff`), and
setting the column never fails after that, as there is one category for each row
(`categorize_eq_ok_iff`). `categorizeInPlace` is the same carried out on a table in
place, where a failure leaves the table that there was.

Setting a column replaces the one of its name or stands behind all others; no other
column notices. `categorize_all_or_nothing` puts this together.
-/

namespace EventMixing

namespace Table

/-! ## Variables that cannot be read -/

/-- There is no column for the variable, or one that cannot be read as doubles. -/
def Unreadable (t : Table) (v : Variable) : Prop :=
  t.column? v.name = none ∨ ∃ c, t.column? v.name = some c ∧ c.data.toDoubles? = none

theorem doublesOf_eq_ok_iff {t : Table} {v : Variable} {values : List (Option Double)} :
    t.doublesOf v = .ok values ↔
      ∃ c, t.column? v.name = some c ∧ c.data.toDoubles? = some values := by
  unfold doublesOf
  cases t.column? v.name with
  | none => simp
  | some c => cases hdoubles : c.data.toDoubles? <;> simp [hdoubles]

theorem unreadable_iff {t : Table} {v : Variable} :
    t.Unreadable v ↔ ¬ ∃ values, t.doublesOf v = .ok values := by
  simp only [doublesOf_eq_ok_iff, Unreadable]
  cases t.column? v.name with
  | none => simp
  | some c => cases hdoubles : c.data.toDoubles? <;> simp [hdoubles]

/-- Reading fails exactly where a variable in use cannot be read. -/
theorem exists_observables_error_iff {t : Table} {used : VariableSet} :
    (∃ f, t.observables used = .error f) ↔ ∃ v, used.contains v = true ∧ t.Unreadable v := by
  cases hrows : t.observables used with
  | error f =>
      have hnot : ¬ ∀ v, used.contains v = true → ∃ values, t.doublesOf v = .ok values := by
        intro hread
        rw [observables_eq_ok_iff.mpr ⟨hread, rfl⟩] at hrows
        cases hrows
      obtain ⟨v, hv⟩ := Classical.not_forall.mp hnot
      obtain ⟨hused, hunread⟩ := Classical.not_imp.mp hv
      exact iff_of_true ⟨f, rfl⟩ ⟨v, hused, unreadable_iff.mpr hunread⟩
  | ok rows =>
      obtain ⟨hread, -⟩ := observables_eq_ok_iff.mp hrows
      refine iff_of_false (fun h => ?_) (fun h => ?_)
      · obtain ⟨f, hf⟩ := h
        cases hf
      · obtain ⟨v, hused, hunreadable⟩ := h
        exact unreadable_iff.mp hunreadable (hread v hused)

/-- The value of a row is what the cell of its column holds, and NaN for an empty cell. -/
theorem valueAt_eq {t : Table} {v : Variable} {values : List (Option Double)}
    (h : t.doublesOf v = .ok values) {row : Nat} (hrow : row < t.rows) :
    ∃ cell, values[row]? = some cell ∧ t.valueAt v row = cell.getD .nan := by
  have hlt : row < values.length := by rw [length_of_doublesOf h]; exact hrow
  refine ⟨values[row], List.getElem?_eq_getElem hlt, ?_⟩
  simp [valueAt, h, List.getElem?_eq_getElem hlt]

/-! ## Setting the column -/

theorem column?_setColumn_self (t : Table) {new : Column} (length : new.data.length = t.rows) :
    (t.setColumn new length).column? new.name = some new := by
  simp only [column?, setColumn, setIn]
  split
  · rename_i hmem
    generalize t.columns = columns at hmem
    induction columns with
    | nil => cases hmem
    | cons c rest ih =>
        rw [List.map_cons]
        by_cases h : c.name = new.name
        · rw [if_pos h, List.find?_cons_of_pos (by simp)]
        · have hrest : new.name ∈ rest.map (·.name) :=
            (List.mem_cons.mp hmem).resolve_left (fun heq => h heq.symm)
          rw [if_neg h, List.find?_cons_of_neg (by simpa using h), ih hrest]
  · rename_i hmem
    have hnone : t.columns.find? (·.name == new.name) = none := by
      rw [List.find?_eq_none]
      intro c hc heq
      exact hmem (List.mem_map.mpr ⟨c, hc, eq_of_beq heq⟩)
    simp [List.find?_append, hnone]

/-! ## The whole table -/

theorem withCategories_eq_ok {t : Table} {categories : List (Option UInt64)}
    (h : categories.length = t.rows) :
    ∃ length, t.withCategories categories
      = .ok (t.setColumn ⟨categoryColumn, categoryData categories⟩ length) :=
  ⟨_, dif_pos h⟩

theorem length_categorizeRows {t : Table} {g : Grid} {used : VariableSet}
    {rows : List Observables} (h : t.observables used = .ok rows) :
    (g.categorizeRows rows).length = t.rows := by
  obtain ⟨-, rfl⟩ := observables_eq_ok_iff.mp h
  simp [Grid.categorizeRows]

/-- Once the rows are read there is one category for each of them, so that the column can
be set. -/
theorem categorize_of_observables {t : Table} {g : Grid} {used : VariableSet}
    {rows : List Observables} (h : t.observables used = .ok rows) :
    ∃ length, t.categorize g used = .ok (g.categorizeRows rows,
      t.setColumn ⟨categoryColumn, categoryData (g.categorizeRows rows)⟩ length) := by
  obtain ⟨length, hset⟩ := withCategories_eq_ok (length_categorizeRows (g := g) h)
  refine ⟨length, ?_⟩
  simp only [categorize, h, hset]
  rfl

theorem categorize_eq_error_iff {t : Table} {g : Grid} {used : VariableSet} {f : Failure} :
    t.categorize g used = .error f ↔ t.observables used = .error f := by
  cases hrows : t.observables used with
  | error f' => simp [categorize, hrows]
  | ok rows =>
      obtain ⟨length, hset⟩ := categorize_of_observables (g := g) hrows
      simp [hset]

theorem categorize_eq_ok_iff {t t' : Table} {g : Grid} {used : VariableSet}
    {categories : List (Option UInt64)} :
    t.categorize g used = .ok (categories, t') ↔
      ∃ rows, t.observables used = .ok rows ∧ categories = g.categorizeRows rows ∧
        ∃ length, t' = t.setColumn ⟨categoryColumn, categoryData categories⟩ length := by
  cases hrows : t.observables used with
  | error f => simp [categorize, hrows]
  | ok rows =>
      obtain ⟨length, hset⟩ := categorize_of_observables (g := g) hrows
      rw [hset]
      constructor
      · intro h
        obtain ⟨rfl, rfl⟩ := Prod.mk.injEq .. |>.mp (Except.ok.inj h)
        exact ⟨rows, rfl, rfl, length, rfl⟩
      · rintro ⟨_, hrows', rfl, _, rfl⟩
        obtain rfl := Except.ok.inj hrows'
        rfl

/-- Categorizing carried out on a table in place: the rows are read, and their categories
are set as a column. -/
def categorizeInPlace (g : Grid) (used : VariableSet) :
    ExceptT Failure (StateM Table) (List (Option UInt64)) := do
  let t ← get
  let rows ← ExceptT.mk (pure (t.observables used))
  let categories := g.categorizeRows rows
  let t' ← ExceptT.mk (pure (t.withCategories categories))
  set t'
  return categories

/-- In place, a table is categorized or left as it was. -/
theorem categorizeInPlace_cases (t : Table) (g : Grid) (used : VariableSet) :
    (∃ categories t', t.categorize g used = .ok (categories, t') ∧
      (categorizeInPlace g used).run.run t = (.ok categories, t')) ∨
    (∃ f, t.categorize g used = .error f ∧
      (categorizeInPlace g used).run.run t = (.error f, t)) := by
  cases hrows : t.observables used with
  | error f =>
      refine Or.inr ⟨f, categorize_eq_error_iff.mpr hrows, ?_⟩
      -- reading is the first thing done, and the column the next
      show StateT.run (ExceptT.bindCont (m := StateM Table) _ (t.observables used)) t = _
      rw [hrows]
      rfl
  | ok rows =>
      obtain ⟨length, hset⟩ := withCategories_eq_ok (length_categorizeRows (g := g) hrows)
      refine Or.inl ⟨_, _, categorize_eq_ok_iff.mpr ⟨rows, hrows, rfl, length, rfl⟩, ?_⟩
      show StateT.run (ExceptT.bindCont (m := StateM Table) _ (t.observables used)) t = _
      rw [hrows]
      show StateT.run (ExceptT.bindCont (m := StateM Table) _
        (t.withCategories (g.categorizeRows rows))) t = _
      rw [hset]
      rfl

/-- The values are those of a row's cells, for the variables in use: NaN for an empty cell,
and NaN for every other variable. -/
def RowHolds (t : Table) (used : VariableSet) (row : Nat) (values : Observables) : Prop :=
  ∀ v, (used.contains v = false → values.get v = .nan) ∧
    (used.contains v = true → ∃ column cells cell, t.column? v.name = some column ∧
      column.data.toDoubles? = some cells ∧ cells[row]? = some cell ∧
      values.get v = cell.getD .nan)

theorem rowHolds_rowAt {t : Table} {used : VariableSet} {rows : List Observables}
    (h : t.observables used = .ok rows) {row : Nat} (hrow : row < t.rows) :
    t.RowHolds used row (t.rowAt used row) := by
  intro v
  rw [get_rowAt]
  constructor
  · intro hunused
    rw [hunused, if_neg Bool.false_ne_true]
  · intro hused
    obtain ⟨cells, hcells⟩ := (observables_eq_ok_iff.mp h).1 v hused
    obtain ⟨column, hcolumn, hdoubles⟩ := doublesOf_eq_ok_iff.mp hcells
    obtain ⟨cell, hcell, hvalue⟩ := valueAt_eq hcells hrow
    exact ⟨column, cells, cell, hcolumn, hdoubles, hcell, by rw [hused, if_pos rfl, hvalue]⟩

/-- The cells of the category column, from which each category can be read back. -/
theorem categoryCells (categories : List (Option UInt64)) :
    ∃ cells, categoryData categories = .integer .u64 cells ∧ cells.length = categories.length ∧
      ∀ row : Nat, (cells[row]? = some none ↔ categories[row]? = some none) ∧
        ∀ c : UInt64, cells[row]? = some (some (c.toNat : Int)) ↔
          categories[row]? = some (some c) := by
  refine ⟨_, rfl, List.length_map _, fun row => ?_⟩
  rw [List.getElem?_map]
  cases categories[row]? with
  | none => simp
  | some category =>
      cases category with
      | none => simp
      | some n =>
          have hcast : ∀ c : UInt64, ((n.toNat : Int) = (c.toNat : Int)) ↔ n = c :=
            fun c => Int.ofNat_inj.trans UInt64.toNat_inj
          simp [hcast]

/-- A table is categorized where every variable in use can be read; else it stays as it
was, since nothing but reading can fail. Each row's category is that of the observables
in its cells. The category column takes the place of an earlier one or comes last, with
an empty cell for each row without a category, and nothing else changes. -/
theorem categorize_all_or_nothing (t : Table) (g : Grid) (used : VariableSet) :
    ((∃ f, t.categorize g used = .error f) ↔
      ∃ v, used.contains v = true ∧ t.Unreadable v) ∧
    (∀ rows, t.observables used = .ok rows →
      ∃ t', t.withCategories (g.categorizeRows rows) = .ok t') ∧
    (∀ f, t.categorize g used = .error f →
      t.observables used = .error f ∧
        (categorizeInPlace g used).run.run t = (.error f, t)) ∧
    ∀ categories t', t.categorize g used = .ok (categories, t') →
      (categorizeInPlace g used).run.run t = (.ok categories, t') ∧
      categories.length = t.rows ∧ t'.rows = t.rows ∧
      (∀ row, row < t.rows → ∃ values : Observables,
        t.RowHolds used row values ∧ categories[row]? = some (g.categorize? values)) ∧
      t'.names = (if categoryColumn ∈ t.names then t.names else t.names ++ [categoryColumn]) ∧
      (∀ name, name ≠ categoryColumn → t'.column? name = t.column? name) ∧
      ∃ cells, t'.column? categoryColumn = some ⟨categoryColumn, .integer .u64 cells⟩ ∧
        cells.length = t.rows ∧
        ∀ row : Nat, (cells[row]? = some none ↔ categories[row]? = some none) ∧
          ∀ c : UInt64, cells[row]? = some (some (c.toNat : Int)) ↔
            categories[row]? = some (some c) := by
  refine ⟨?_, fun rows hrows => ?_, fun f hf => ?_, fun categories t' hok => ?_⟩
  · simp only [categorize_eq_error_iff]
    exact exists_observables_error_iff
  · obtain ⟨length, hset⟩ := withCategories_eq_ok (length_categorizeRows (g := g) hrows)
    exact ⟨_, hset⟩
  · refine ⟨categorize_eq_error_iff.mp hf, ?_⟩
    rcases categorizeInPlace_cases t g used with ⟨_, _, hok, -⟩ | ⟨f', hf', hrun⟩
    · cases hf.symm.trans hok
    · obtain rfl := Except.error.inj (hf.symm.trans hf')
      exact hrun
  · have hrun : (categorizeInPlace g used).run.run t = (.ok categories, t') := by
      rcases categorizeInPlace_cases t g used with ⟨_, _, hok', hrun⟩ | ⟨f, hf, -⟩
      · obtain ⟨rfl, rfl⟩ := Prod.mk.injEq .. |>.mp (Except.ok.inj (hok.symm.trans hok'))
        exact hrun
      · cases hf.symm.trans hok
    obtain ⟨rows, hrows, rfl, length, rfl⟩ := categorize_eq_ok_iff.mp hok
    have hlength := length_categorizeRows (g := g) hrows
    obtain ⟨cells, hcells, hcells_length, hcell⟩ := categoryCells (g.categorizeRows rows)
    refine ⟨hrun, hlength, rows_setColumn t _ length, fun row hrow => ?_,
      names_setColumn t _ length, fun name hname => column?_setColumn_of_ne t length hname.symm,
      cells, ?_, hcells_length.trans hlength, hcell⟩
    · refine ⟨t.rowAt used row, rowHolds_rowAt hrows hrow, ?_⟩
      obtain ⟨-, rfl⟩ := observables_eq_ok_iff.mp hrows
      simp [Grid.categorizeRows, hrow]
    · rw [← hcells]
      exact column?_setColumn_self t length

/-- Two events, of which the second has no value, with labels where the category belongs. -/
def labelled : Table where
  columns := [
    ⟨"category", .text [some "a", some "b"]⟩,
    ⟨"vtx_z", .double [some ⟨0x3FF0000000000000⟩, none]⟩]
  sized := by decide
  distinct := by decide

/-- The labels give way to the categories, and stay where another variable is wanted. -/
theorem categorize_all_or_nothing_labelled :
    (∃ categories t', labelled.categorize Grid.overlapping (VariableSet.empty.insert .vtxZ)
        = .ok (categories, t') ∧ t'.names = ["category", "vtx_z"] ∧
      t'.column? "vtx_z" = labelled.column? "vtx_z") ∧
    ∃ f, labelled.categorize Grid.overlapping (VariableSet.empty.insert .psi2) = .error f ∧
      (categorizeInPlace Grid.overlapping (VariableSet.empty.insert .psi2)).run.run labelled
        = (.error f, labelled) := by
  obtain ⟨hiff, -, hfails, -⟩ := categorize_all_or_nothing labelled Grid.overlapping
    (VariableSet.empty.insert .psi2)
  obtain ⟨f, hf⟩ := hiff.mpr ⟨.psi2, by decide, Or.inl (by decide)⟩
  refine ⟨?_, f, hf, (hfails f hf).2⟩
  have hrows : labelled.observables (VariableSet.empty.insert .vtxZ) = .ok [.atOne, .unset] := by
    decide +kernel
  obtain ⟨length, hok⟩ := categorize_of_observables (g := Grid.overlapping) hrows
  obtain ⟨-, -, -, hsucceeds⟩ := categorize_all_or_nothing labelled Grid.overlapping
    (VariableSet.empty.insert .vtxZ)
  obtain ⟨-, -, -, -, hnames, hothers, -⟩ := hsucceeds _ _ hok
  exact ⟨_, _, hok, hnames, hothers "vtx_z" (by decide)⟩

end Table

end EventMixing
