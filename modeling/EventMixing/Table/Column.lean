import EventMixing.Double.Decimal

/-!
# Columns of a table

A column holds values of one kind, one for each row, a missing value being `none`.
Whatever its kind, a column can be read as doubles, unless it holds a list.

The kinds are those that text files are read into, and with them single precision, the
narrow integers and lists of doubles. Columns of records, bytes, durations, decimals or
categories are left out, and so are lists of anything else.
-/

namespace EventMixing

inductive IntegerType where
  | i8
  | i16
  | i32
  | i64
  | u8
  | u16
  | u32
  | u64
deriving DecidableEq, Repr

/-- The least and the greatest number of a type. -/
def IntegerType.bounds : IntegerType → Int × Int
  | i8 => (-0x80, 0x7F)
  | i16 => (-0x8000, 0x7FFF)
  | i32 => (-0x80000000, 0x7FFFFFFF)
  | i64 => (-0x8000000000000000, 0x7FFFFFFFFFFFFFFF)
  | u8 => (0, 0xFF)
  | u16 => (0, 0xFFFF)
  | u32 => (0, 0xFFFFFFFF)
  | u64 => (0, 0xFFFFFFFFFFFFFFFF)

inductive ColumnKind where
  | double
  | single
  | integer (type : IntegerType)
  | boolean
  | text
  | date
  | moment
  /-- Times of day, which no column holds. -/
  | time
  /-- Nothing but missing values. -/
  | missing
  | list
deriving DecidableEq, Repr

inductive ColumnData where
  | double (values : List (Option Double))
  /-- Doubles that single precision can hold. -/
  | single (values : List (Option Double))
  | integer (type : IntegerType) (values : List (Option Int))
  | boolean (values : List (Option Bool))
  | text (values : List (Option String))
  /-- Days since the first of January 1970. -/
  | date (values : List (Option Int))
  /-- Microseconds since the beginning of 1970. -/
  | moment (values : List (Option Int))
  /-- A column without a type, all of it missing. -/
  | missing (rows : Nat)
  /-- Lists of doubles. -/
  | list (values : List (Option (List (Option Double))))
deriving DecidableEq

namespace ColumnData

def length : ColumnData → Nat
  | double values => values.length
  | single values => values.length
  | integer _ values => values.length
  | boolean values => values.length
  | text values => values.length
  | date values => values.length
  | moment values => values.length
  | missing rows => rows
  | list values => values.length

def kind : ColumnData → ColumnKind
  | double _ => .double
  | single _ => .single
  | integer type _ => .integer type
  | boolean _ => .boolean
  | text _ => .text
  | date _ => .date
  | moment _ => .moment
  | missing _ => .missing
  | list _ => .list

/-- The values as doubles: whole numbers, days and microseconds rounded to the nearest, truth values
as 1 and 0, texts as the decimals that they spell, anything else missing. Lists are
no numbers, but a column without values is one of missing doubles, whatever its kind. -/
def toDoubles? : ColumnData → Option (List (Option Double))
  | double values => some values
  | single values => some values
  | integer _ values => some (values.map (·.map Double.ofInt))
  | boolean values => some (values.map (·.map fun b => Double.ofNat b.toNat))
  | text values => some (values.map (·.bind fun s => Double.ofText? s.toList))
  | date values => some (values.map (·.map Double.ofInt))
  | moment values => some (values.map (·.map Double.ofInt))
  | missing rows => some (List.replicate rows none)
  | list values =>
    if values.all Option.isNone then some (List.replicate values.length none) else none

theorem length_of_toDoubles? {data : ColumnData} {values}
    (h : data.toDoubles? = some values) : values.length = data.length := by
  cases data with
  | list items =>
    rw [toDoubles?, Option.ite_none_right_eq_some, Option.some.injEq] at h
    obtain ⟨-, rfl⟩ := h
    simp [length]
  | _ => simp_all [toDoubles?, length] <;> simp [← h]

/-- A column cannot be read as doubles where it holds a list, and only there. -/
theorem toDoubles?_eq_none_iff {data : ColumnData} :
    data.toDoubles? = none ↔ ∃ values items, data = list values ∧ some items ∈ values := by
  cases data with
  | list values =>
    simp only [toDoubles?, ite_eq_right_iff, reduceCtorEq, imp_false, list.injEq]
    constructor
    · intro hall
      obtain ⟨value, hvalue, hsome⟩ := List.all_eq_false.mp (Bool.eq_false_iff.mpr hall)
      cases value with
      | none => exact absurd rfl hsome
      | some items => exact ⟨values, items, rfl, hvalue⟩
    · rintro ⟨_, items, rfl, hitems⟩ hall
      cases List.all_eq_true.mp hall _ hitems
  | _ => simp [toDoubles?]

/-! ## Values one below the other -/

/-- The values of a column and then those of another of its kind. -/
def append? : ColumnData → ColumnData → Option ColumnData
  | double a, double b => some (double (a ++ b))
  | single a, single b => some (single (a ++ b))
  | integer type a, integer type' b =>
    if type = type' then some (integer type (a ++ b)) else none
  | boolean a, boolean b => some (boolean (a ++ b))
  | text a, text b => some (text (a ++ b))
  | date a, date b => some (date (a ++ b))
  | moment a, moment b => some (moment (a ++ b))
  | missing m, missing n => some (missing (m + n))
  | list a, list b => some (list (a ++ b))
  | _, _ => none

/-- Each value as many times over as its count says. -/
def repeated {α : Type} (counts : List Nat) (values : List α) : List α :=
  (counts.zip values).flatMap fun (n, a) => List.replicate n a

/-- The column with each value repeated. -/
def repeatEach (counts : List Nat) : ColumnData → ColumnData
  | double values => double (repeated counts values)
  | single values => single (repeated counts values)
  | integer type values => integer type (repeated counts values)
  | boolean values => boolean (repeated counts values)
  | text values => text (repeated counts values)
  | date values => date (repeated counts values)
  | moment values => moment (repeated counts values)
  | missing rows => missing (repeated counts (List.replicate rows ())).length
  | list values => list (repeated counts values)

end ColumnData

structure Column where
  name : String
  data : ColumnData
deriving DecidableEq

end EventMixing
