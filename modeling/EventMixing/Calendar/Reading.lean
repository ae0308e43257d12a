import EventMixing.Calendar
import EventMixing.Text.Blank

/-!
# Reading dates and times

A format is a list of the parts that a written date or time has one after the other. A
text is a date, a time of day, or both at once if one of the formats for them reads all
of it. Where day and year could both come first, the day does.
-/

namespace EventMixing.Calendar

/-! ## Formats -/

/-- A part of a written date or time. -/
inductive Part where
  | year
  | month
  | day
  | hour
  | minute
  | second
  /-- So many digits of a fraction of a second. -/
  | fraction (digits : Nat)
  /-- A point and digits of a fraction of a second, or nothing. -/
  | anyFraction
  | mark (c : Char)
  /-- Blanks, or none. -/
  | blanks
deriving DecidableEq, Repr

/-- What the parts tell. -/
structure Moment where
  year : Int := 0
  month : Nat := 0
  day : Nat := 0
  hour : Nat := 0
  minute : Nat := 0
  second : Nat := 0
  nanoseconds : Nat := 0

/-- The number that up to `width` digits spell, and the rest. -/
def takeDigits? (width : Nat) (text : List Char) : Option (Nat × List Char) :=
  let digits := (text.take width).takeWhile Char.isDigit
  if digits.isEmpty then none else some (digitsValue digits, text.drop digits.length)

/-- A number of up to two digits and at most so large, after blanks. -/
def takeNumber? (greatest : Nat) (text : List Char) : Option (Nat × List Char) :=
  (takeDigits? 2 (text.dropWhile isBlank)).filter (·.1 ≤ greatest)

/-- A year after blanks: up to four digits, or any number of them after a sign. A year too
far away is none. -/
def takeYear? (text : List Char) : Option (Int × List Char) :=
  let year : Option (Int × List Char) := match text.dropWhile isBlank with
    | '-' :: rest => (takeDigits? rest.length rest).map fun (n, rest) => (-(n : Int), rest)
    | '+' :: rest => (takeDigits? rest.length rest).map fun (n, rest) => ((n : Int), rest)
    | text => (takeDigits? 4 text).map fun (n, rest) => ((n : Int), rest)
  year.filter (·.1.natAbs < 262143)

/-- The nanoseconds of a fraction of a second. Digits past the ninth do not count. -/
def nanosecondsOf (digits : List Char) : Nat :=
  digitsValue (digits.take 9) * Nat.pow 10 (9 - digits.length)

/-- What a text tells after a part, and the rest. -/
def Part.read? (part : Part) (m : Moment) (text : List Char) : Option (Moment × List Char) :=
  match part with
  | year => (takeYear? text).map fun (n, rest) => ({ m with year := n }, rest)
  | month => (takeNumber? 12 text).map fun (n, rest) => ({ m with month := n }, rest)
  | day => (takeNumber? 31 text).map fun (n, rest) => ({ m with day := n }, rest)
  | hour => (takeNumber? 23 text).map fun (n, rest) => ({ m with hour := n }, rest)
  | minute => (takeNumber? 59 text).map fun (n, rest) => ({ m with minute := n }, rest)
  | second => (takeNumber? 60 text).map fun (n, rest) => ({ m with second := n }, rest)
  | fraction digits =>
    let taken := (text.take digits).takeWhile Char.isDigit
    if taken.length = digits then
      some ({ m with nanoseconds := nanosecondsOf taken }, text.drop digits)
    else none
  | anyFraction =>
    match text with
    | '.' :: rest =>
      let (taken, rest) := rest.span Char.isDigit
      if taken.isEmpty then none
      else some ({ m with nanoseconds := nanosecondsOf taken }, rest)
    | text => some (m, text)
  | mark c =>
    match text with
    | d :: rest => if d = c then some (m, rest) else none
    | [] => none
  | blanks => some (m, text.dropWhile isBlank)

def readParts? (format : List Part) (text : List Char) : Option Moment :=
  go {} text format
where
  go (m : Moment) (text : List Char) : List Part → Option Moment
    | [] => if text.isEmpty then some m else none
    | part :: parts =>
      match part.read? m text with
      | some (m, rest) => go m rest parts
      | none => none

/-! ## Dates -/

/-- Which part of a written date comes first; the month stands in the middle. -/
inductive DateOrder where
  | dayFirst
  | yearFirst
deriving DecidableEq, Repr

def DateOrder.parts (order : DateOrder) (c : Char) : List Part :=
  match order with
  | dayFirst => [.day, .mark c, .month, .mark c, .year]
  | yearFirst => [.year, .mark c, .month, .mark c, .day]

def Moment.days? (m : Moment) : Option Int := daysOfDate? m.year m.month m.day

/-- The days since 1970 of a date with dashes or slashes between its parts. -/
def readDate? (order : DateOrder) (text : List Char) : Option Int :=
  ['-', '/'].findSome? fun c => (readParts? (order.parts c) text).bind Moment.days?

/-! ## Times of day -/

def clockParts : List Part := [.hour, .mark ':', .minute, .mark ':', .second]

def isTime (text : List Char) : Bool := (readParts? (clockParts ++ [.anyFraction]) text).isSome

/-! ## Moments -/

def clockFormats : List (List Part) :=
  let compact : List Part := [.hour, .minute, .second]
  let fractions : List (List Part) := [9, 6, 3].map fun n => [.mark '.', .fraction n]
  [clockParts, compact, [.hour, .mark ':', .minute], [.hour, .minute]]
    ++ fractions.map (clockParts ++ ·) ++ fractions.map (compact ++ ·)

def momentFormats : DateOrder → List (List Part)
  | .dayFirst =>
    let date := DateOrder.parts .dayFirst
    [date '/' ++ [.blanks] ++ clockParts,
      date '-' ++ [.blanks, .hour, .mark ':', .minute],
      date '-' ++ [.blanks] ++ clockParts]
      ++ [3, 6, 9].map fun n => date '-' ++ [.mark 'T'] ++ clockParts ++ [.mark '.', .fraction n]
  | .yearFirst =>
    let date := DateOrder.parts .yearFirst
    (['/', '-'].flatMap fun c => [Part.mark 'T', .blanks].flatMap fun between =>
        clockFormats.map fun clock => date c ++ [between] ++ clock)
      ++ [date '-' ++ [.mark 'T'] ++ clockParts ++ [.anyFraction]]

def Moment.microseconds? (m : Moment) : Option Int :=
  m.days?.map fun days =>
    ((days * 24 + m.hour) * 60 + m.minute) * 60 * 1000000 + m.second * 1000000
      + m.nanoseconds / 1000

/-- The microseconds since 1970 of a date and a time of day. -/
def readMoment? (order : DateOrder) (text : List Char) : Option Int :=
  (momentFormats order).findSome? fun format =>
    (readParts? format text).bind Moment.microseconds?

/-! ## The order of the parts -/

/-- The order in which a text can be read. -/
def orderOf? (read? : DateOrder → List Char → Option Int) (text : List Char) :
    Option DateOrder :=
  [DateOrder.dayFirst, .yearFirst].find? fun order => (read? order text).isSome

end EventMixing.Calendar
