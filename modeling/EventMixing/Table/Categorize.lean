import EventMixing.Failure
import EventMixing.Grid
import EventMixing.Table
import EventMixing.VariableSet

/-!
# Categories of the rows of a table

The observables of a row are the values of the columns named for the variables in use,
a missing value counting as NaN. A table is categorized as a whole: either every column
can be read and the category column is set, or nothing happens.
-/

namespace EventMixing

def categoryColumn : String := "category"

namespace Table

/-! ## Columns that are needed -/

def checkColumns (t : Table) (used : VariableSet) : Outcome Unit :=
  let missing := (used.toList.map (·.name)).filter fun name => (t.column? name).isNone
  if missing.isEmpty then .ok ()
  else .refuse ("Observable column(s) " ++ quotedList missing
    ++ " not found in dataset. Available columns: " ++ quotedList t.names)

def doublesOf (t : Table) (v : Variable) : Outcome (List (Option Double)) :=
  match t.column? v.name with
  | none => .error ⟨["Observable column '" ++ v.name ++ "' not found"], .table "no such column"⟩
  | some c =>
    match c.data.toDoubles? with
    | none =>
      .error ⟨["Observable column '" ++ v.name ++ "' must be numeric (cannot cast to Float64)"],
        .table "lists are no numbers"⟩
    | some values => .ok values

/-- Rows with the values of one variable set, a missing one to NaN. -/
def setValues (v : Variable) (rows : List Observables) (values : List (Option Double)) :
    List Observables :=
  rows.zipWith (fun row value => row.set v (value.getD .nan)) values

/-- Rows with the values of each of the given variables set in turn. -/
def readVariables (t : Table) (rows : List Observables) :
    List Variable → Outcome (List Observables)
  | [] => .ok rows
  | v :: rest =>
    match t.doublesOf v with
    | .error f => .error f
    | .ok values => t.readVariables (setValues v rows values) rest

/-- The observables of each row, as far as their variables are in use. -/
def observables (t : Table) (used : VariableSet) : Outcome (List Observables) :=
  t.readVariables (List.replicate t.rows .unset) used.toList

end Table

/-- The category of each row. -/
def Grid.categorizeRows (g : Grid) (rows : List Observables) : List (Option UInt64) :=
  rows.map g.categorize?

namespace Table

/-! ## The category column -/

/-- The column of categories, a row without one missing. -/
def categoryData (categories : List (Option UInt64)) : ColumnData :=
  .integer .u64 (categories.map fun c => c.map fun n => (n.toNat : Int))

/-- The table with its category column set, given one category for each row. -/
def withCategories (t : Table) (categories : List (Option UInt64)) : Outcome Table :=
  if h : categories.length = t.rows then
    .ok (t.setColumn ⟨categoryColumn, categoryData categories⟩
      (by simpa [categoryData, ColumnData.length] using h))
  else
    .refuse ("Category count " ++ toString categories.length ++ " does not match row count "
      ++ toString t.rows)

/-- The categories of the rows, and the table with its category column set. -/
def categorize (t : Table) (g : Grid) (used : VariableSet) :
    Outcome (List (Option UInt64) × Table) :=
  match t.observables used with
  | .error f => .error f
  | .ok rows =>
    let categories := g.categorizeRows rows
    (t.withCategories categories).map (categories, ·)

end Table

end EventMixing
