import EventMixing.Proofs.CategoryColumn
import EventMixing.Proofs.Relevance

/-!
# Categorizing over an earlier category column

No variable is named as the category column is (`Variable.name_ne_categoryColumn`). So what
a table holds in that column has no say in its categories: tables that agree on the columns
of the variables in use (`AgreesOn`) get the same category in each row
(`AgreesOn.categorize?_rowAt`). And the column that is set covers up an earlier one
(`setColumn_setColumn`).

A categorized table agrees with the table that it came from, which makes categorizing
idempotent. `categorize_forgets_categories` is both at once.
-/

namespace EventMixing

theorem Variable.name_ne_categoryColumn (v : Variable) : v.name ≠ categoryColumn := by
  cases v <;> decide

namespace Table

/-! ## Setting a column twice -/

/-- Of two columns of one name set in turn, the second counts. -/
theorem setIn_setIn {new new' : Column} (name : new.name = new'.name) (columns : List Column) :
    setIn new' (setIn new columns) = setIn new' columns := by
  have hset : new'.name ∈ (setIn new columns).map (·.name) := by
    rw [names_setIn, ← name]
    split
    · assumption
    · exact List.mem_append_right _ List.mem_cons_self
  rw [setIn, if_pos hset]
  unfold setIn
  rw [name]
  split
  · rw [List.map_map]
    refine List.map_congr_left fun c _ => ?_
    rw [Function.comp_apply]
    split <;> rfl
  · rename_i hfresh
    have hkept : columns.map (fun c => if c.name = new'.name then new' else c) = columns := by
      refine (List.map_congr_left fun c hc => if_neg fun heq => ?_).trans (List.map_id' columns)
      exact hfresh (List.mem_map.mpr ⟨c, hc, heq⟩)
    rw [List.map_append, hkept, List.map_singleton, if_pos name]

theorem setColumn_setColumn (t : Table) {new new' : Column} (name : new.name = new'.name)
    (length : new.data.length = t.rows) (length' : new'.data.length = (t.setColumn new length).rows)
    (length'' : new'.data.length = t.rows) :
    (t.setColumn new length).setColumn new' length' = t.setColumn new' length'' := by
  rw [setColumn, mk.injEq]
  exact setIn_setIn name t.columns

/-! ## Tables that agree -/

/-- The tables have the same columns for the variables in use. -/
def AgreesOn (used : VariableSet) (t u : Table) : Prop :=
  ∀ v, used.contains v = true → t.column? v.name = u.column? v.name

theorem agreesOn_setColumn (t : Table) (used : VariableSet) {data : ColumnData}
    (length : data.length = t.rows) :
    AgreesOn used t (t.setColumn ⟨categoryColumn, data⟩ length) :=
  fun v _ => (column?_setColumn_of_ne t length v.name_ne_categoryColumn.symm).symm

namespace AgreesOn

variable {used : VariableSet} {t u : Table} {g : Grid}

theorem doublesOf (h : AgreesOn used t u) {v : Variable} (hv : used.contains v = true) :
    t.doublesOf v = u.doublesOf v := by
  rw [Table.doublesOf, Table.doublesOf, h v hv]

theorem categorize?_rowAt (h : AgreesOn used t u) (row : Nat) :
    g.categorize? (t.rowAt used row) = g.categorize? (u.rowAt used row) := by
  refine Grid.categorize?_congr fun v _ => ?_
  rw [get_rowAt, get_rowAt]
  split
  · rename_i hv
    rw [valueAt, valueAt, h.doublesOf hv]
  · rfl

/-- A variable in use has a column in both tables, which is as long as either. -/
theorem rows_eq {rows : List Observables} (h : AgreesOn used t u)
    (hread : t.observables used = .ok rows) {v : Variable} (hv : used.contains v = true) :
    t.rows = u.rows := by
  obtain ⟨values, hvalues⟩ := (observables_eq_ok_iff.mp hread).1 v hv
  rw [← length_of_doublesOf hvalues, ← length_of_doublesOf (h.doublesOf hv ▸ hvalues)]

theorem exists_observables {rows : List Observables} (h : AgreesOn used t u)
    (hread : t.observables used = .ok rows) : ∃ rows', u.observables used = .ok rows' := by
  refine ⟨_, observables_eq_ok_iff.mpr ⟨fun v hv => ?_, rfl⟩⟩
  rw [← h.doublesOf hv]
  exact (observables_eq_ok_iff.mp hread).1 v hv

theorem getElem?_categorizeRows {rows rows' : List Observables} (h : AgreesOn used t u)
    (hread : t.observables used = .ok rows) (hread' : u.observables used = .ok rows') {row : Nat}
    (hrow : row < t.rows) (hrow' : row < u.rows) :
    (g.categorizeRows rows)[row]? = (g.categorizeRows rows')[row]? := by
  rw [categorizeRows_of_observables hread, categorizeRows_of_observables hread', List.getElem?_map,
    List.getElem?_map, List.getElem?_range hrow, List.getElem?_range hrow', Option.map_some,
    Option.map_some, h.categorize?_rowAt]

theorem categorizeRows_eq {rows rows' : List Observables} (h : AgreesOn used t u)
    (hread : t.observables used = .ok rows) (hread' : u.observables used = .ok rows')
    (hrows : t.rows = u.rows) : g.categorizeRows rows = g.categorizeRows rows' := by
  rw [categorizeRows_of_observables hread, categorizeRows_of_observables hread', hrows]
  exact List.map_congr_left fun row _ => h.categorize?_rowAt row

end AgreesOn

/-! ## Categorizing again -/

variable {t t' : Table} {g : Grid} {used : VariableSet} {categories : List (Option UInt64)}

theorem categorize_categorized (h : t.categorize g used = .ok (categories, t')) :
    t'.categorize g used = .ok (categories, t') := by
  obtain ⟨rows, hread, rfl, length, rfl⟩ := categorize_eq_ok_iff.mp h
  have hagree := agreesOn_setColumn t used length
  obtain ⟨rows', hread'⟩ := hagree.exists_observables hread
  have hsame : g.categorizeRows rows = g.categorizeRows rows' :=
    hagree.categorizeRows_eq hread hread' (rows_setColumn t _ length).symm
  refine categorize_eq_ok_iff.mpr ⟨rows', hread', hsame, length.trans ?_, ?_⟩
  · exact (rows_setColumn t _ length).symm
  · exact (setColumn_setColumn t rfl length _ length).symm

/-- A categorized table gets the same categories again and stays as it is. And where another
table has the same columns for the variables in use, whatever it has for categories, it gets
the same category in each row: the same categories and the same column of them if it has as
many rows, which is so as soon as any variable is in use. -/
theorem categorize_forgets_categories (t : Table) (g : Grid) (used : VariableSet)
    (categories : List (Option UInt64)) (t' : Table)
    (h : t.categorize g used = .ok (categories, t')) :
    (t'.categorize g used = .ok (categories, t') ∧
      (categorizeInPlace g used).run.run t' = (.ok categories, t')) ∧
    ∀ u : Table, (∀ v, used.contains v = true → t.column? v.name = u.column? v.name) →
      ∃ categories' u', u.categorize g used = .ok (categories', u') ∧
        (∀ row, row < t.rows → row < u.rows → categories[row]? = categories'[row]?) ∧
        ((t.rows = u.rows ∨ ∃ v, used.contains v = true) →
          categories = categories' ∧ t'.column? categoryColumn = u'.column? categoryColumn) := by
  have hagain := categorize_categorized h
  refine ⟨⟨hagain, ?_⟩, fun u hagree => ?_⟩
  · rcases categorizeInPlace_cases t' g used with ⟨_, _, hok, hrun⟩ | ⟨f, hf, -⟩
    · obtain ⟨rfl, rfl⟩ := Prod.mk.injEq .. |>.mp (Except.ok.inj (hagain.symm.trans hok))
      exact hrun
    · cases hf.symm.trans hagain
  · obtain ⟨rows, hread, rfl, length, rfl⟩ := categorize_eq_ok_iff.mp h
    obtain ⟨rows', hread'⟩ := AgreesOn.exists_observables hagree hread
    obtain ⟨length', hok⟩ := categorize_of_observables (g := g) hread'
    refine ⟨_, _, hok, fun row => AgreesOn.getElem?_categorizeRows hagree hread hread',
      fun hrows => ?_⟩
    have hsame : g.categorizeRows rows = g.categorizeRows rows' := by
      refine AgreesOn.categorizeRows_eq hagree hread hread' ?_
      rcases hrows with hrows | ⟨v, hv⟩
      · exact hrows
      · exact AgreesOn.rows_eq hagree hread hv
    refine ⟨hsame, ?_⟩
    rw [column?_setColumn_self t length, column?_setColumn_self u length', hsame]

/-- The events of `labelled` without their labels, and with indices of their own. -/
def unlabelled : Table where
  columns := [
    ⟨"event", .integer .i64 [some 7, some 8]⟩,
    ⟨"vtx_z", .double [some ⟨0x3FF0000000000000⟩, none]⟩]
  sized := by decide
  distinct := by decide

/-- Without labels, with labels and with categories in their place, the events get the same
categories. -/
theorem categorize_forgets_categories_labelled :
    labelled.column? categoryColumn ≠ unlabelled.column? categoryColumn ∧
    ∃ t' u', labelled.categorize Grid.overlapping (VariableSet.empty.insert .vtxZ)
        = .ok ([some 3, none], t') ∧
      t'.categorize Grid.overlapping (VariableSet.empty.insert .vtxZ)
        = .ok ([some 3, none], t') ∧
      unlabelled.categorize Grid.overlapping (VariableSet.empty.insert .vtxZ)
        = .ok ([some 3, none], u') ∧
      t'.column? categoryColumn = u'.column? categoryColumn := by
  have hread : labelled.observables (VariableSet.empty.insert .vtxZ) = .ok [.atOne, .unset] := by
    decide +kernel
  have hcategories : Grid.overlapping.categorizeRows [.atOne, .unset] = [some 3, none] := by
    decide +kernel
  have hok : labelled.categorize Grid.overlapping (VariableSet.empty.insert .vtxZ)
      = .ok ([some 3, none], labelled.setColumn ⟨categoryColumn, categoryData [some 3, none]⟩ rfl) :=
    categorize_eq_ok_iff.mpr ⟨_, hread, hcategories.symm, rfl, rfl⟩
  obtain ⟨⟨hagain, -⟩, hothers⟩ := categorize_forgets_categories labelled Grid.overlapping
    (VariableSet.empty.insert .vtxZ) _ _ hok
  obtain ⟨categories', u', hok', -, hsame⟩ := hothers unlabelled fun v hv => by
    obtain rfl : v = .vtxZ := by revert hv; cases v <;> decide
    decide
  obtain ⟨rfl, hcolumn⟩ := hsame (Or.inr ⟨.vtxZ, by decide⟩)
  exact ⟨by decide, _, u', hok, hagain, hok', hcolumn⟩

end Table

end EventMixing
