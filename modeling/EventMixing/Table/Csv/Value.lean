import EventMixing.Calendar.Reading
import EventMixing.Table.Column
import EventMixing.Table.Csv.Field

/-!
# Values of a CSV text

Every field must be a value of its column's kind, an empty one being a missing value.
Blanks before a number are passed over.
-/

namespace EventMixing.Csv

/-- Why a text makes no table. -/
inductive CsvFault where
  | empty
  /-- The first characters announce compressed data. -/
  | compressed
  | tooManyFields
  | misfit (field : List Char)
  | differentColumns
deriving DecidableEq, Repr

def CsvFault.message : CsvFault → String
  | .empty => "empty CSV"
  | .compressed => "cannot read compressed CSV"
  | .tooManyFields => "found more fields than the header names"
  | .misfit field =>
    "could not parse `" ++ String.ofList field ++ "` as the type of its column"
  | .differentColumns => "the columns of the files differ"

/-! ## Numbers -/

/-- A whole number of a type: digits, perhaps after a sign. -/
def wholeNumber? (type : IntegerType) (chars : List Char) : Option Int :=
  let (negative, digits) := splitSign chars
  let (least, greatest) := type.bounds
  if isDigits digits ∧ ¬(negative ∧ least = 0) then
    let i : Int := if negative then -(digitsValue digits : Int) else digitsValue digits
    if least ≤ i ∧ i ≤ greatest then some i else none
  else none

/-- A number, after the blanks before it should it not be one with them. Nothing but
blanks is a missing value. -/
def numberOfField {α : Type} (read? : List Char → Option α) (f : Field) :
    Except CsvFault (Option α) :=
  let chars := f.inner
  if f.chars.isEmpty then .ok none
  else match read? chars with
    | some a => .ok (some a)
    | none =>
      let rest := chars.dropWhile fun c => c = ' ' || c = '\t'
      if rest.isEmpty then .ok none
      else match read? rest with
        | some a => .ok (some a)
        | none => .error (.misfit rest)

/-! ## Other values -/

def booleanOfField (f : Field) : Except CsvFault (Option Bool) :=
  let chars := f.inner
  if chars.isEmpty then .ok none
  else match String.ofList (chars.map Char.toLower) with
    | "true" => .ok (some true)
    | "false" => .ok (some false)
    | _ => .error (.misfit chars)

/-- A text; one in quotes must end with its quote. -/
def textOfField (f : Field) : Except CsvFault (Option String) :=
  if f.chars.isEmpty then .ok none
  else if !f.quoted then .ok (some (String.ofList f.chars))
  else if f.chars.length < 2 ∨ f.chars.getLast? ≠ some '"' then .error (.misfit f.chars)
  else .ok (some (String.ofList (Field.collapseQuotes false ((f.chars.drop 1).dropLast))))

/-- A date or a moment that can be read. -/
def calendarValueOfField (read? : List Char → Option Int) (f : Field) :
    Except CsvFault (Option Int) :=
  let chars := f.inner
  if chars.isEmpty then .ok none
  else match read? chars with
    | some i => .ok (some i)
    | none => .error (.misfit chars)

/-- Dates or moments, all with their parts in the order of the first one. -/
def calendarValues (read? : Calendar.DateOrder → List Char → Option Int)
    (fields : List Field) : Except CsvFault (List (Option Int)) :=
  let first := (fields.map Field.inner).find? (!·.isEmpty)
  let order := ((first.bind (Calendar.orderOf? read?)).getD .yearFirst)
  fields.mapM (calendarValueOfField (read? order))

/-! ## Columns -/

/-- The column of a kind from its fields. Times of day, missing values alone and lists
cannot be read. -/
def columnData (fields : List Field) : ColumnKind → Except CsvFault ColumnData
  | .double => (fields.mapM (numberOfField Double.ofText?)).map .double
  | .single => (fields.mapM (numberOfField Double.singleOfText?)).map .single
  | .integer type => (fields.mapM (numberOfField (wholeNumber? type))).map (.integer type)
  | .boolean => (fields.mapM booleanOfField).map .boolean
  | .text => (fields.mapM textOfField).map .text
  | .date => (calendarValues Calendar.readDate? fields).map .date
  | .moment => (calendarValues Calendar.readMoment? fields).map .moment
  | .time | .missing | .list => .error (.misfit [])

end EventMixing.Csv
