import EventMixing.Files.Expansion
import EventMixing.Script
import EventMixing.Table.Categorize
import EventMixing.Table.Csv.Reading
import EventMixing.Table.Csv.Writing
import EventMixing.Table.Partition
import EventMixing.Text.Case

/-!
# Tables in files

The extension of a file's name, in letters of any case, decides its format: a CSV text or
a table in columnar form. Other formats are neither read nor written, and nothing is
written before the format is known. A table may lie in several files, for which a folder
or a pattern stands, and then the format is that of the folder's or the pattern's name.
-/

namespace EventMixing

inductive FileFormat where
  | csv
  | parquet
deriving DecidableEq, Repr

namespace FileFormat

/-- The extension in lower case, empty if there is none. -/
def extensionOf (path : Path) : String :=
  String.ofList (lowerCase ((path.extension?.getD "").toList))

/-- The format of an extension in lower case. -/
def ofExtension? : String → Option FileFormat
  | "csv" => some csv
  | "parquet" => some parquet
  | _ => none

/-- The format that a path asks for. -/
def ofPath? (path : Path) : Option FileFormat := ofExtension? (extensionOf path)

end FileFormat

namespace Table

/-! ## Reading -/

/-- The texts of files, if they all hold texts. -/
def texts? (contents : List FileContent) : Option (List String) :=
  contents.mapM fun
    | .text s => some s
    | .table _ => none

def tables? (contents : List FileContent) : Option (List Table) :=
  contents.mapM fun
    | .table t => some t
    | .text _ => none

/-- The table of CSV texts. Kinds are inferred from so many lines, or from all for zero. -/
def ofTexts (inferRows : Nat) (contents : List FileContent) : Outcome Table :=
  match texts? contents with
  | none => .tableFault "invalid utf-8 sequence"
  | some texts =>
    match Csv.read (if inferRows = 0 then none else some inferRows) texts with
    | .ok t => .ok t
    | .error fault => .tableFault fault.message

/-- The table of tables in columnar form, with the columns that their folders name. -/
def ofTables (files : Expansion) (contents : List FileContent) : Outcome Table :=
  match tables? contents with
  | none => .tableFault "the file is not a Parquet file"
  | some tables =>
    let parts := files.paths.map (Partition.ofPath files.lead)
    match (stack? tables).bind (Partition.addColumns? · (tables.map rows) parts) with
    | some t => .ok t
    | none => .tableFault "the columns of the files differ, or those that their folders name"

/-- Reads a table from the files that a path stands for. Whatever goes wrong is a fault
of the table. -/
def load (path : Path) (inferRows : Nat) : Command Table :=
  match FileFormat.ofPath? path with
  | none => Command.ofOutcome (.refuse ("Unsupported file format: " ++ FileFormat.extensionOf path
      ++ ". Supported formats: csv, parquet"))
  | some format => Command.within ("Failed to read events from " ++ path.text) <|
    ExceptT.adapt (fun f => ⟨[], .table f.cause.message⟩) do
      let files ← path.expand
      let contents ← files.paths.mapM Command.readFile
      Command.ofOutcome (match format with
        | .csv => ofTexts inferRows contents
        | .parquet => ofTables files contents)

/-- Reads a table that has a column for every variable in use. -/
def loadEvents (path : Path) (used : VariableSet) (inferRows : Nat) : Command Table := do
  let t ← load path inferRows
  Command.ofOutcome (t.checkColumns used)
  return t

/-! ## Writing -/

def create (path : Path) (content : FileContent) : Command Unit :=
  (Command.writeFile path content).within ("Failed to create output file: " ++ path.text)

/-- Writes a table to a file. A table that makes no CSV text leaves an empty file. -/
def save (t : Table) (path : Path) : Command Unit :=
  match FileFormat.ofPath? path with
  | none => Command.ofOutcome (.refuse ("Unsupported output format: "
      ++ FileFormat.extensionOf path ++ ". Supported formats: csv, parquet"))
  | some .parquet => create path (.table t)
  | some .csv =>
    match Csv.write? t with
    | some text => create path (.text text)
    | none => do
      create path (.text "")
      Command.within ("Failed to write CSV file: " ++ path.text)
        (Command.ofOutcome (.tableFault "CSV format does not support nested data"))

/-! ## Size -/

def columnBytes : ColumnData → Nat
  | .double values => 8 * values.length
  | .single values => 4 * values.length
  | .integer type values =>
    values.length * match type with
      | .i8 | .u8 => 1
      | .i16 | .u16 => 2
      | .i32 | .u32 => 4
      | .i64 | .u64 => 8
  | .boolean values => (values.length + 7) / 8
  | .text values => values.foldl (fun total v => total + 16 + (v.getD "").utf8ByteSize) 0
  | .date values => 4 * values.length
  | .moment values => 8 * values.length
  | .missing _ => 0
  | .list values => values.foldl (fun total v => total + 8 + 8 * (v.getD []).length) 0

def estimatedBytes (t : Table) : Nat :=
  t.columns.foldl (fun total c => total + columnBytes c.data) 0

end Table

end EventMixing
