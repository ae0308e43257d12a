import EventMixing.Table.Categorize

/-!
# What the rows of a table are read as

The observables are read column by column, each column setting its variable in all
rows at once. Row by row this comes to `rowAt`: the values that the table holds
for the variables in use, and NaN for the others. `observables_eq_ok_iff` says
that reading succeeds exactly where every variable in use has a column of
doubles, and that the rows are then these.
-/

namespace EventMixing

/-- Setting several variables to values of their own leaves the others. -/
theorem Observables.get_foldl_set (value : Variable → Double) (v : Variable) :
    ∀ (vs : List Variable) (o : Observables),
      (vs.foldl (fun o w => o.set w (value w)) o).get v = if v ∈ vs then value v else o.get v
  | [], o => rfl
  | w :: vs, o => by
      rw [List.foldl_cons, get_foldl_set value v vs]
      by_cases hmem : v ∈ vs
      · rw [if_pos hmem, if_pos (List.mem_cons_of_mem w hmem)]
      · rw [if_neg hmem]
        by_cases heq : w = v
        · subst heq
          rw [get_set_self, if_pos List.mem_cons_self]
        · rw [get_set_of_ne o heq, if_neg]
          exact fun hcons => (List.mem_cons.mp hcons).elim (fun h => heq h.symm) hmem

namespace Table

/-- The double that a table holds for a variable in a row: NaN for a missing value,
and without a column of doubles. -/
def valueAt (t : Table) (v : Variable) (row : Nat) : Double :=
  match t.doublesOf v with
  | .ok values => values[row]?.join.getD .nan
  | .error _ => .nan

/-- The observables of a row, as far as their variables are in use. -/
def rowAt (t : Table) (used : VariableSet) (row : Nat) : Observables :=
  used.toList.foldl (fun o v => o.set v (t.valueAt v row)) .unset

theorem get_rowAt (t : Table) (used : VariableSet) (row : Nat) (v : Variable) :
    (t.rowAt used row).get v = if used.contains v then t.valueAt v row else .nan := by
  rw [rowAt, Observables.get_foldl_set, Observables.get_unset]
  simp only [VariableSet.mem_toList]

theorem length_of_doublesOf {t : Table} {v : Variable} {values : List (Option Double)}
    (h : t.doublesOf v = .ok values) : values.length = t.rows := by
  unfold doublesOf at h
  split at h
  · cases h
  · rename_i column hcolumn
    split at h
    · cases h
    · rename_i doubles hdoubles
      obtain rfl := Except.ok.inj h
      rw [ColumnData.length_of_toDoubles? hdoubles]
      exact t.sized column (List.mem_of_find?_eq_some hcolumn)

/-- One column sets its variable in every row. -/
theorem setValues_eq {t : Table} {v : Variable} {values : List (Option Double)}
    (h : t.doublesOf v = .ok values) {rows : List Observables} (hlen : rows.length = t.rows) :
    setValues v rows values = rows.mapIdx fun row o => o.set v (t.valueAt v row) := by
  have hvalues := length_of_doublesOf h
  apply List.ext_getElem
  · simp [setValues, hlen, hvalues]
  · intro row hrow _
    have hlt : row < values.length := by
      rw [setValues, List.length_zipWith] at hrow
      omega
    simp [setValues, valueAt, h, List.getElem?_eq_getElem hlt]

theorem readVariables_eq_ok_iff {t : Table} {vs : List Variable} {rows result : List Observables}
    (hlen : rows.length = t.rows) :
    t.readVariables rows vs = .ok result ↔
      (∀ v ∈ vs, ∃ values, t.doublesOf v = .ok values) ∧
        rows.mapIdx (fun row o => vs.foldl (fun o v => o.set v (t.valueAt v row)) o) = result := by
  induction vs generalizing rows with
  | nil =>
      have hid : rows.mapIdx (fun _ o => o) = rows := List.ext_getElem (by simp) (by simp)
      simp [readVariables, hid]
  | cons v vs ih =>
      rw [readVariables, List.forall_mem_cons]
      cases hv : t.doublesOf v with
      | error f => simp
      | ok values =>
          have hset := setValues_eq hv hlen
          have hlen' : (setValues v rows values).length = t.rows := by
            rw [hset, List.length_mapIdx, hlen]
          simp only [ih hlen', Except.ok.injEq, exists_eq', true_and]
          rw [hset, List.mapIdx_mapIdx]
          rfl

/-- Reading the observables succeeds exactly where every variable in use has a column
of doubles, and gives the observables of each row in order. -/
theorem observables_eq_ok_iff {t : Table} {used : VariableSet} {rows : List Observables} :
    t.observables used = .ok rows ↔
      (∀ v, used.contains v = true → ∃ values, t.doublesOf v = .ok values) ∧
        (List.range t.rows).map (t.rowAt used) = rows := by
  have hrows : (List.replicate t.rows Observables.unset).mapIdx (fun row o =>
      used.toList.foldl (fun o v => o.set v (t.valueAt v row)) o)
        = (List.range t.rows).map (t.rowAt used) := by
    apply List.ext_getElem
    · simp
    · intro row _ _
      simp [rowAt]
  rw [observables, readVariables_eq_ok_iff List.length_replicate, hrows]
  simp only [VariableSet.mem_toList]

end Table

end EventMixing
