import EventMixing.Table.Csv.Inference
import EventMixing.Table.Csv.Value
import EventMixing.Table.Stacking

/-!
# Reading CSV texts

A row is a line: an empty one is a row of missing values, as are the fields that a line
lacks at its end, while fields in excess are refused. Several texts make one table, the
rows of each below those of the one before, if their columns have the same names; the
kinds are inferred for each text, and each is then read with the kinds that suit all.
-/

namespace EventMixing.Csv

/-! ## Rows -/

/-- The fields of a row with `columns` of them. -/
def takeRow : Nat → List Char → Except CsvFault (List Field × List Char)
  | 0, text => .ok ([], text)
  | columns + 1, text =>
    match Field.take text with
    | (field, []) => .ok (field.trimReturn :: List.replicate columns .absent, [])
    | (field, c :: rest) =>
      if c = '\n' then .ok (field.trimReturn :: List.replicate columns .absent, rest)
      else if columns = 0 then
        if rest.isEmpty then .ok ([field.trimReturn], []) else .error .tooManyFields
      else (takeRow columns rest).map fun (fields, rest) => (field.trimReturn :: fields, rest)

theorem takeRow_length_le {columns text fields rest}
    (h : takeRow columns text = .ok (fields, rest)) : rest.length ≤ text.length := by
  fun_induction takeRow columns text generalizing fields rest with
  | case1 => simp_all
  | case2 | case4 | case5 => simp_all
  | case3 columns text field tail taken =>
    have := Field.length_lt_of_take taken
    simp_all
    omega
  | case6 columns text field c tail taken _ _ ih =>
    have := Field.length_lt_of_take taken
    cases hr : takeRow columns tail with
    | error e => simp [hr, Except.map] at h
    | ok p =>
      obtain ⟨fields', rest'⟩ := p
      simp only [hr, Except.map, Except.ok.injEq, Prod.mk.injEq] at h
      have := ih hr
      simp_all
      omega

theorem takeRow_shorter {columns text fields rest}
    (h : takeRow (columns + 1) text = .ok (fields, rest)) (ne : text ≠ []) :
    rest.length < text.length := by
  have pos := List.length_pos_iff.mpr ne
  rw [takeRow] at h
  split at h
  · simp_all
  · rename_i field c tail taken
    have shorter := Field.length_lt_of_take taken
    split at h
    · simp_all
    · split at h
      · split at h <;> simp_all
      · cases hr : takeRow columns tail with
        | error e => simp [hr, Except.map] at h
        | ok p =>
          simp only [hr, Except.map, Except.ok.injEq, Prod.mk.injEq] at h
          have := takeRow_length_le hr
          simp_all
          omega

/-- The rows of a piece, each of `more + 1` fields. -/
def takeRows (more : Nat) (text : List Char) : Except CsvFault (List (List Field)) :=
  match text with
  | [] => .ok []
  | c :: tail =>
    match _taken : takeRow (more + 1) (c :: tail) with
    | .error e => .error e
    | .ok (fields, rest) => (takeRows more rest).map (fields :: ·)
termination_by text.length
decreasing_by exact takeRow_shorter _taken (List.cons_ne_nil c tail)

/-! ## One table -/

/-- A text without a byte order mark. -/
def dropMark : List Char → List Char
  | '\uFEFF' :: rest => rest
  | text => text

def dropLineEnds (text : List Char) : List Char :=
  text.dropWhile fun c => c = '\n' || c = '\r'

/-- Whether a text starts with the two characters that announce compressed data, which
is four bytes at least. -/
def isCompressed (text : String) : Bool :=
  3 < text.utf8ByteSize && match text.toList with
    | 'x' :: c :: _ => c = '^' || c = '\x01'
    | _ => false

/-- The schema of a text, which must be more than one byte. -/
def schemaOfText (sample : Option Nat) (text : String) : Except CsvFault Schema :=
  if text.utf8ByteSize < 2 then .error .empty
  else if isCompressed text then .error .compressed
  else match schemaOf? sample (dropLineEnds (dropMark text.toList)) with
    | some schema => .ok schema
    | none => .error .empty

/-- The rows of a text below its first line. Line ends at the start of the text are
empty rows of a table with one column, and nothing to one with more. -/
def rowsOfText (columns : Nat) (text : List Char) : Except CsvFault (List (List Field)) := do
  let text := dropMark text
  let text := if 1 < columns then dropLineEnds text else text
  return (← (pieces firstWindow (afterFirstLine false text)).mapM
    (takeRows (columns - 1))).flatten

/-- The table of a text with the columns of a schema. -/
def tableOfText (schema : Schema) (text : String) : Except CsvFault Table := do
  let rows ← rowsOfText schema.length text.toList
  let columns ← schema.zipIdx.mapM fun ((name, kind), i) =>
    (columnData (rows.map fun row => row.getD i .absent) kind).map (Column.mk name)
  match Table.ofColumns? columns with
  | some table => .ok table
  | none => .error .differentColumns

/-! ## Several texts in one table -/

/-- A schema for all texts. -/
def commonSchema : List Schema → Except CsvFault Schema
  | [] => .error .empty
  | first :: rest =>
    match rest.foldlM Schema.merge? first with
    | some schema => .ok schema
    | none => .error .differentColumns

/-- The table of texts, the kinds of each inferred from so many lines, or from all. -/
def read (sample : Option Nat) (texts : List String) : Except CsvFault Table := do
  let schema ← commonSchema (← texts.mapM (schemaOfText sample))
  let tables ← texts.mapM (tableOfText schema)
  match Table.stack? tables with
  | some table => .ok table
  | none => .error .differentColumns

end EventMixing.Csv
