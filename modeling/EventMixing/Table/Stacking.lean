import EventMixing.Table

/-!
# Tables one below the other

Tables are stacked if they have the same columns, in whatever order: the columns of the
first table go on with the rows of the others. Columns of one name must be of one kind.
-/

namespace EventMixing.Table

/-- The column with the rows of the table's column of its name below. -/
def extendColumn? (lower : Table) (c : Column) : Option Column := do
  let d ← lower.column? c.name
  return ⟨c.name, ← c.data.append? d.data⟩

/-- The table with the rows of another one below. -/
def below? (upper lower : Table) : Option Table :=
  if upper.columns.length = lower.columns.length then
    (upper.columns.mapM lower.extendColumn?).bind ofColumns?
  else none

/-- All tables, the first one on top. -/
def stack? : List Table → Option Table
  | [] => none
  | first :: rest => rest.foldlM below? first

end EventMixing.Table
