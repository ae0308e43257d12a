import EventMixing.Files.Path
import EventMixing.Table
import EventMixing.Table.Csv.Inference
import EventMixing.Table.Csv.Value
import EventMixing.Text.Percent

/-!
# Columns that folders name

A table may be parted into files by the values of some columns, which are then told by
the folders on the way to each file: one named `run=7` holds the rows with 7 in the
column `run`. Such a column has one value for all rows of a file. It takes the place of
the file's column of its name, with values of that kind, or else comes after all others,
its kind being inferred from the values.
-/

namespace EventMixing.Partition

/-! ## Folders -/

/-- The column and the value that a folder's name tells: there is one equals sign, and no
star behind it. -/
def ofFolderName? (name : String) : Option (String × String) :=
  match name.splitOn "=" with
  | [column, value] =>
    if value.contains '*' then none else (percentDecoded? value).map (column, ·)
  | _ => none

/-- The columns and values on the way to a file, behind so many characters. -/
def ofPath (lead : Nat) (p : Path) : List (String × String) :=
  (Path.components ⟨String.ofList (p.text.toList.drop lead)⟩).dropLast.filterMap ofFolderName?

/-! ## Values -/

def isMissing (value : String) : Bool := value = "" || value = "__HIVE_DEFAULT_PARTITION__"

/-- The kind of column that a text would make if it is a date, a time of day or both. -/
def calendarKind (chars : List Char) : ColumnKind :=
  if (Calendar.orderOf? Calendar.readDate? chars).isSome then .date
  else if Calendar.isTime chars then .time
  else if (Calendar.orderOf? Calendar.readMoment? chars).isSome then .moment
  else .text

/-- The kind of column that a value would make. One between quotes is no number. -/
def kindOfValue (value : String) : ColumnKind :=
  match value.toList with
  | '"' :: rest =>
    if rest.getLast? = some '"' then calendarKind rest.dropLast else .text
  | chars =>
    match Csv.kindOfText chars with
    | .text => calendarKind chars
    | kind => kind

def fieldOfValue (value : String) : Csv.Field :=
  if isMissing value then .absent else ⟨value.toList, false⟩

/-- The column of a kind with the values. -/
def dataOfValues (kind : Option ColumnKind) (values : List String) :
    Except Csv.CsvFault ColumnData :=
  let kind := kind.getD (Csv.commonKind ((values.filter (!isMissing ·)).map kindOfValue))
  Csv.columnData (values.map fieldOfValue) kind

/-! ## Columns -/

/-- Different names, each where it stands last. -/
def lastNames (names : List String) : List String := names.reverse.eraseDups.reverse

/-- The column of a name, with one value for each of the files that have so many rows. -/
def columnOf? (kind : String → Option ColumnKind) (rows : List Nat)
    (parts : List (List (String × String))) (name : String) : Option Column := do
  let values := (parts.flatten.filter (·.1 = name)).map (·.2)
  let data ← (dataOfValues (kind name) values).toOption
  if values.length < rows.length then none else return ⟨name, data.repeatEach rows⟩

/-- The columns that the folders on the way to files name, for a table of the rows of all
of them. The first path names the columns; another one must not name more. -/
def columns? (kind : String → Option ColumnKind) (rows : List Nat)
    (parts : List (List (String × String))) : Option (List Column) :=
  let names := lastNames ((parts.headD []).map (·.1))
  if names.isEmpty then some []
  else if parts.flatten.all (·.1 ∈ names) then names.mapM (columnOf? kind rows parts)
  else none

/-- The table with the columns that the folders name. -/
def addColumns? (t : Table) (rows : List Nat) (parts : List (List (String × String))) :
    Option Table := do
  let kind name := (t.column? name).map (·.data.kind)
  let columns ← columns? kind rows parts
  Table.ofColumns? (columns.foldl (fun all c => Table.setIn c all) t.columns)

end EventMixing.Partition
