import EventMixing.Double
import EventMixing.Rounding

/-!
# The fewest digits that read back

A finite positive number stands for all reals that round to it. `shortest`
looks on ever finer decimal grids for a point in that interval and takes the
first one: the number's two neighbours on each grid are enough to look at,
because a grid that meets the interval at all meets it in one of them.
-/

namespace EventMixing

/-- A positive number of some binary format: its value is
`significand * 2 ^ exponent`, and where `closeBelow` holds the next number below
is only half as far away as the next one above. -/
structure BinaryNumber where
  significand : Nat
  exponent : Int
  closeBelow : Bool

/-- A decimal number `digits * 10 ^ exponent`. -/
structure Decimal where
  digits : Nat
  exponent : Int
deriving DecidableEq, Repr

namespace BinaryNumber

/-- Value and interval on a common denominator. -/
structure Interval where
  value : Nat
  low : Nat
  high : Nat
  den : Nat
  /-- The ends round to the value too. -/
  closed : Bool

/-- The reals that round to `n`: half way to either neighbour, ends included when
the significand is even. -/
def interval (n : BinaryNumber) : Interval :=
  let up := n.exponent.toNat
  { value := (4 * n.significand) <<< up
    low := (4 * n.significand - if n.closeBelow then 1 else 2) <<< up
    high := (4 * n.significand + 2) <<< up
    den := 4 <<< (-n.exponent).toNat
    closed := n.significand % 2 == 0 }

/-- Whether `num / den`, on the interval's denominator, lies in the interval. -/
def Interval.contains (i : Interval) (num scale : Nat) : Bool :=
  let low := i.low * scale
  let high := i.high * scale
  if i.closed then low ≤ num && num ≤ high else low < num && num < high

/-- The point of the grid `10 ^ p` that stands for the interval, if it meets it:
of the two neighbours of the value, the one inside, and of two inside the
nearer. -/
def Interval.onGrid? (i : Interval) (p : Int) (tie : Tie) : Option Nat :=
  let unit := Nat.pow 10 p.toNat * i.den
  let scale := Nat.pow 10 (-p).toNat
  let value := i.value * scale
  let below := value / unit
  match i.contains (below * unit) scale, i.contains ((below + 1) * unit) scale with
  | true, true => some (roundDiv value unit tie)
  | true, false => some below
  | false, true => some (below + 1)
  | false, false => none

/-- An exponent `p` with `value < 10 ^ p`, too large by two at most. -/
def decimalBound (n : BinaryNumber) : Int :=
  ((n.exponent + n.significand.log2 + 1) * 30103).fdiv 100000 + 1

/-- The first of the grids `10 ^ p`, `10 ^ (p - 1)`, … that meets the interval. -/
def firstOnGrid (i : Interval) (tie : Tie) : Nat → Int → Decimal
  | 0, p => ⟨0, p⟩
  | fuel + 1, p =>
    match i.onGrid? p tie with
    | some digits => ⟨digits, p⟩
    | none => firstOnGrid i tie fuel (p - 1)

/-- The decimal of fewest digits that rounds to `n`, and of those the nearest.
Seventeen digits always suffice, and the search starts three too early at most. -/
def shortest (n : BinaryNumber) (tie : Tie) : Decimal :=
  firstOnGrid n.interval tie 22 n.decimalBound

end BinaryNumber

/-! ## Doubles in a format -/

/-- A binary format: the bits of its significands, and its least exponent. -/
structure BinaryFormat where
  precision : Nat
  leastExponent : Int

def BinaryFormat.double : BinaryFormat := ⟨53, -1074⟩

def BinaryFormat.single : BinaryFormat := ⟨24, -149⟩

/-- The magnitude of a double as a number of a format that can hold it. The double is
finite and not zero. -/
def Double.inFormat (d : Double) (f : BinaryFormat) : BinaryNumber :=
  let exponent := max (d.significand.log2 + d.exponent - (f.precision - 1)) f.leastExponent
  let significand :=
    d.significand <<< (d.exponent - exponent).toNat >>> (exponent - d.exponent).toNat
  { significand
    exponent
    closeBelow := significand == 1 <<< (f.precision - 1) && f.leastExponent < exponent }

end EventMixing
