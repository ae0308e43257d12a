import EventMixing.Table.Column
import EventMixing.Table.Csv.Field
import EventMixing.Text.Numeral

/-!
# What a CSV text holds

The first line names the columns. The kind of a column is inferred from the fields of
the lines after it: whole numbers, decimals (among which whole numbers may stand), truth
values, or else texts. A field only has to look like a number for that, be its digits
those of another script.
-/

namespace EventMixing.Csv

/-! ## What a text looks like -/

/-- Numerals, one at least. -/
def isNumerals (chars : List Char) : Bool := !chars.isEmpty && chars.all isNumeral

/-- A whole number: numerals, perhaps after a minus sign. -/
def looksWhole : List Char → Bool
  | '-' :: rest => isNumerals rest
  | chars => isNumerals chars

/-- An exponent with its mark: numerals, perhaps after a sign. -/
def looksExponent : List Char → Bool
  | c :: rest =>
    (c = 'e' || c = 'E') && match rest with
      | '-' :: rest | '+' :: rest => isNumerals rest
      | rest => isNumerals rest
  | [] => false

/-- A decimal after its sign: it has a point or an exponent, or is `inf` or `NaN`. -/
def looksUnsignedDecimal (chars : List Char) : Bool :=
  let (whole, rest) := chars.span isNumeral
  chars = ['i', 'n', 'f'] || chars = ['N', 'a', 'N'] ||
    match rest with
    | '.' :: rest =>
      let (fraction, rest) := rest.span isNumeral
      if fraction.isEmpty then !whole.isEmpty && rest.isEmpty
      else rest.isEmpty || looksExponent rest
    | rest => !whole.isEmpty && looksExponent rest

def looksDecimal : List Char → Bool
  | '-' :: rest | '+' :: rest => looksUnsignedDecimal rest
  | chars => looksUnsignedDecimal chars

/-- A truth value in letters of any case, to which a long `ſ` belongs. -/
def looksBoolean (chars : List Char) : Bool :=
  let word := String.ofList (chars.map fun c => if c = 'ſ' then 's' else c.toLower)
  word = "true" || word = "false"

/-- The kind of column that a text would make. -/
def kindOfText (chars : List Char) : ColumnKind :=
  if looksBoolean chars then .boolean
  else if looksDecimal chars then .double
  else if looksWhole chars then .integer .i64
  else .text

/-- The kind of a column whose fields look like these kinds. -/
def commonKind (seen : List ColumnKind) : ColumnKind :=
  match seen with
  | [] => .text
  | first :: rest =>
    if rest.all (· = first) then first
    else if seen.all fun k => k = .integer .i64 ∨ k = .double then .double
    else .text

/-! ## Names and kinds of the columns -/

abbrev Schema := List (String × ColumnKind)

/-- A column in place of the one of its name, or after all others. -/
def Schema.set (schema : Schema) (column : String × ColumnKind) : Schema :=
  if column.1 ∈ schema.map (·.1) then
    schema.map fun c => if c.1 = column.1 then column else c
  else schema ++ [column]

/-- Repeated names marked: the `n`-th repetition of a name with `n`, from 0. -/
def markRepeats (seen : List String) : List String → List String
  | [] => []
  | name :: rest =>
    let repeats := seen.count name
    (if repeats = 0 then name else name ++ "_duplicated_" ++ toString (repeats - 1))
      :: markRepeats (name :: seen) rest

def namesOfLine (line : List Char) : List String :=
  markRepeats [] ((fieldsOfLine (trimReturn line)).map fun f => String.ofList f.inner)

/-- The kinds of so many columns, from the fields of lines that are not empty. -/
def inferKinds (columns : Nat) (lines : List (List Char)) : List ColumnKind :=
  let rows := lines.map fun line => fieldsOfLine (trimReturn line)
  (List.range columns).map fun i =>
    commonKind (rows.filterMap fun row =>
      match row[i]? with
      | some f => if f.chars.isEmpty then none else some (kindOfText f.inner)
      | none => none)

/-- The schema of a first line and those after it. A name may still be there twice, as
a marked one can be the name of another column; it stands for one column then. -/
def schemaOfLines (first : List Char) (others : List (List Char)) : Schema :=
  let names := namesOfLine first
  (names.zip (inferKinds names.length others)).foldl Schema.set []

/-- The schema of a text that starts with its first line, if it is not empty. The kinds
are inferred from so many lines, or from all. A line that is alone needs its line end. -/
def schemaOf? (sample : Option Nat) (text : List Char) : Option Schema :=
  match lines text with
  | [] => none
  | [line] =>
    if text.getLast? = some '\n' then some (schemaOfLines line [])
    else (lines (text ++ ['\n'])).head?.map fun line => schemaOfLines line []
  | first :: others =>
    some (schemaOfLines first (match sample with
      | some n => others.take n
      | none => others))

/-! ## Several texts -/

/-- The kind of a column that holds values of two kinds. -/
def widerKind (a b : ColumnKind) : ColumnKind :=
  if a = b then a
  else match a, b with
    | .text, _ | _, .text => .text
    | .double, _ | _, .double => .double
    | _, _ => .integer .i64

/-- The schema of texts with two schemas, whose names must be the same. -/
def Schema.merge? (a b : Schema) : Option Schema :=
  if a.map (·.1) = b.map (·.1) then
    some ((a.zip b).map fun (c, d) => (c.1, widerKind c.2 d.2))
  else none

end EventMixing.Csv
