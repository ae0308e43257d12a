import EventMixing.Calendar
import EventMixing.Double.Layout
import EventMixing.Table

/-!
# Writing a CSV text

A table is written as a line of names and a line for each row. Texts are quoted only
where they have to be: around commas, quotes and line ends, and for the empty text,
which would read as a missing value. Lists cannot be written.
-/

namespace EventMixing.Csv

/-! ## Cells -/

/-- Whether a text has to stand between quotes. -/
def needsQuotes (text : List Char) : Bool :=
  text.isEmpty || text.any fun c => c = ',' || c = '"' || c = '\n' || c = '\r'

/-- A text, each quote in it doubled if it stands between quotes. -/
def textCell (text : String) : String :=
  if needsQuotes text.toList then
    "\"" ++ String.join (text.toList.map fun c => if c = '"' then "\"\"" else c.toString) ++ "\""
  else text

def cells? : ColumnData → Option (List String)
  | .double values => some (values.map fun v => (v.map (·.render .csv)).getD "")
  | .single values => some (values.map fun v => (v.map (·.renderIn .single .csvSingle)).getD "")
  | .integer _ values => some (values.map fun v => (v.map toString).getD "")
  | .boolean values =>
    some (values.map fun v => (v.map fun b => if b then "true" else "false").getD "")
  | .text values => some (values.map fun v => (v.map textCell).getD "")
  | .date values => some (values.map fun v => (v.map Calendar.dateText).getD "")
  | .moment values => some (values.map fun v => (v.map (Calendar.momentText 6)).getD "")
  | .missing rows => some (List.replicate rows "")
  | .list _ => none

/-- Cells with commas between them, and the line end. -/
def writeLine (cells : List String) : String := ",".intercalate cells ++ "\n"

/-- The rows of columns of one length. -/
def rowsOf (count : Nat) (columns : List (List String)) : List (List String) :=
  let columns := columns.map List.toArray
  (List.range count).map fun i => columns.map fun cells => cells.getD i ""

/-- The text of a table, if all its columns can be written. -/
def write? (t : Table) : Option String :=
  (t.columns.mapM fun c => cells? c.data).map fun columns =>
    String.join (writeLine (t.names.map textCell) :: (rowsOf t.rows columns).map writeLine)

end EventMixing.Csv
