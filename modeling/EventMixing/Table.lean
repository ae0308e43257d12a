import EventMixing.Table.Column

/-!
# Tables

A table is a list of columns of one length with names of their own. Setting a column
replaces the one of its name in its place, or appends it.
-/

namespace EventMixing

/-- The number of rows of a table with these columns: none without a column. -/
def rowCount : List Column → Nat
  | [] => 0
  | c :: _ => c.data.length

/-- Columns of one length and of different names. -/
structure Table where
  columns : List Column
  sized : ∀ c ∈ columns, c.data.length = rowCount columns
  distinct : (columns.map (·.name)).Nodup
deriving DecidableEq

namespace Table

/-- The table of these columns, if they make one. -/
def ofColumns? (columns : List Column) : Option Table :=
  if h : (∀ c ∈ columns, c.data.length = rowCount columns) ∧ (columns.map (·.name)).Nodup then
    some ⟨columns, h.1, h.2⟩
  else none

def rows (t : Table) : Nat := rowCount t.columns

def names (t : Table) : List String := t.columns.map (·.name)

def column? (t : Table) (name : String) : Option Column := t.columns.find? (·.name == name)

/-! ## Setting a column -/

/-- A column in place of the one of its name, or after all others. -/
def setIn (new : Column) (columns : List Column) : List Column :=
  if new.name ∈ columns.map (·.name) then
    columns.map fun c => if c.name = new.name then new else c
  else columns ++ [new]

theorem names_setIn (new : Column) (columns : List Column) :
    (setIn new columns).map (·.name)
      = if new.name ∈ columns.map (·.name) then columns.map (·.name)
        else columns.map (·.name) ++ [new.name] := by
  unfold setIn
  split
  · rw [List.map_map]
    apply List.map_congr_left
    intro c _
    simp only [Function.comp]
    split <;> simp_all
  · simp

theorem rowCount_setIn {new : Column} {columns : List Column}
    (length : new.data.length = rowCount columns) :
    rowCount (setIn new columns) = rowCount columns := by
  unfold setIn
  cases columns with
  | nil => simpa [rowCount] using length
  | cons c rest =>
    split
    · simp only [List.map_cons, rowCount]
      split
      · simpa [rowCount] using length
      · rfl
    · rfl

def setColumn (t : Table) (new : Column) (length : new.data.length = t.rows) : Table where
  columns := setIn new t.columns
  sized := by
    intro c hc
    rw [rowCount_setIn length]
    unfold setIn at hc
    split at hc
    · obtain ⟨d, hd, rfl⟩ := List.mem_map.mp hc
      split
      · exact length
      · exact t.sized d hd
    · rcases List.mem_append.mp hc with hc | hc
      · exact t.sized c hc
      · rw [List.mem_singleton.mp hc]
        exact length
  distinct := by
    rw [names_setIn]
    split
    · exact t.distinct
    · rename_i fresh
      rw [List.nodup_append]
      refine ⟨t.distinct, by simp, ?_⟩
      rintro name hname _ hnew rfl
      exact fresh (by rwa [List.mem_singleton.mp hnew] at hname)

@[simp]
theorem rows_setColumn (t : Table) (new : Column) (length : new.data.length = t.rows) :
    (t.setColumn new length).rows = t.rows := rowCount_setIn length

theorem names_setColumn (t : Table) (new : Column) (length : new.data.length = t.rows) :
    (t.setColumn new length).names
      = if new.name ∈ t.names then t.names else t.names ++ [new.name] :=
  names_setIn new t.columns

/-- Setting a column changes no other. -/
theorem column?_setColumn_of_ne (t : Table) {new : Column} (length : new.data.length = t.rows)
    {name : String} (ne : new.name ≠ name) :
    (t.setColumn new length).column? name = t.column? name := by
  simp only [column?, setColumn, setIn]
  split
  · generalize t.columns = columns
    induction columns with
    | nil => rfl
    | cons c rest ih =>
      simp only [List.map_cons, List.find?_cons]
      by_cases h : c.name = new.name
      · simp [h, beq_eq_false_iff_ne.mpr ne, ih]
      · simp [h, ih]
  · simp [List.find?_append, ne]

end Table

end EventMixing
