import EventMixing.Text.Digits

/-!
# Dates

Days since the first of January 1970 are a date of the Gregorian calendar, which is
taken to reach back and forth for ever. It repeats itself every 400 years, or 146097
days.
-/

namespace EventMixing.Calendar

/-- Year, month and day of a number of days. Years are counted from March on, so that the
leap day is the last one of its year. -/
def civilDate (days : Int) : Int × Nat × Nat :=
  let shifted := days + 719468
  let era := shifted / 146097
  let dayOfEra := (shifted % 146097).toNat
  let yearOfEra := (dayOfEra - dayOfEra / 1460 + dayOfEra / 36524 - dayOfEra / 146096) / 365
  let dayOfYear := dayOfEra - (365 * yearOfEra + yearOfEra / 4 - yearOfEra / 100)
  let fromMarch := (5 * dayOfYear + 2) / 153
  let day := dayOfYear - (153 * fromMarch + 2) / 5 + 1
  let month := if fromMarch < 10 then fromMarch + 3 else fromMarch - 9
  (yearOfEra + era * 400 + (if month ≤ 2 then 1 else 0), month, day)

/-! ## Writing -/

/-- Year, month and day between dashes. A year of more than four digits has a sign. -/
def dateText (days : Int) : String :=
  let (year, month, day) := civilDate days
  (if year < 0 then "-" else if 9999 < year then "+" else "") ++ zeroFilled 4 year.natAbs
    ++ "-" ++ zeroFilled 2 month ++ "-" ++ zeroFilled 2 day

/-- Date and time of day from so many parts of a second since the beginning of 1970, a
second having `10 ^ places` of them. -/
def momentText (places : Nat) (units : Int) : String :=
  let seconds := units / Nat.pow 10 places
  let ofDay := (seconds % 86400).toNat
  dateText (seconds / 86400) ++ "T" ++ zeroFilled 2 (ofDay / 3600)
    ++ ":" ++ zeroFilled 2 (ofDay / 60 % 60) ++ ":" ++ zeroFilled 2 (ofDay % 60)
    ++ "." ++ zeroFilled places (units % Nat.pow 10 places).toNat

/-- A moment in universal time, from the nanoseconds since the beginning of 1970. -/
def timestampText (nanoseconds : Int) : String := momentText 9 nanoseconds ++ "+00:00"

/-! ## Counting days -/

/-- The number of days to a date, the same way back. -/
def daysOfDate (year : Int) (month day : Nat) : Int :=
  let year := if month ≤ 2 then year - 1 else year
  let fromMarch := (month + 9) % 12
  let dayOfYear := (153 * fromMarch + 2) / 5 + day - 1
  let yearOfEra := year % 400
  year / 400 * 146097 + yearOfEra * 365 + yearOfEra / 4 - yearOfEra / 100 + dayOfYear - 719468

/-- The number of days to a date, should there be one. -/
def daysOfDate? (year : Int) (month day : Nat) : Option Int :=
  let days := daysOfDate year month day
  if civilDate days = (year, month, day) then some days else none

end EventMixing.Calendar
