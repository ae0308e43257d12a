import EventMixing.Double
import EventMixing.Rounding

/-!
# Correct rounding to a double

`Double.nearest` rounds an exact quotient once, a half going to the even
significand and everything past the largest double becoming infinite. Products,
quotients and conversions of finite doubles are that rounding of the exact
result.
-/

namespace EventMixing

namespace Double

/-- The largest `k` with `2 ^ k ≤ num / den`, for a positive quotient. -/
def log2Quotient (num den : Nat) : Int :=
  let k : Int := (num.log2 : Int) - den.log2
  if num <<< (-k).toNat < den <<< k.toNat then k - 1 else k

/-- The magnitude of the double nearest to `num / den`. The units of the last
place are `2 ^ q`; a significand that rounds up to `2 ^ 53` carries into the
exponent field by itself. -/
def nearestMagnitude (num den : Nat) : Nat :=
  if num = 0 then 0
  else
    let q : Int := max (log2Quotient num den - 52) (-1074)
    let m := roundDiv (num <<< (-q).toNat) (den <<< q.toNat) .toEven
    min ((q + 1074).toNat <<< 52 + m) infinityMagnitude

def nearest (negative : Bool) (num den : Nat) : Double :=
  ofMagnitude negative (nearestMagnitude num den)

/-- The double that is the number of single precision nearest to `± num / den`. Past
the largest of these numbers it is infinite. -/
def nearestSingle (negative : Bool) (num den : Nat) : Double :=
  if num = 0 then ofMagnitude negative 0
  else
    let q : Int := max (log2Quotient num den - 23) (-149)
    let m := roundDiv (num <<< (-q).toNat) (den <<< q.toNat) .toEven
    if 1 <<< 128 ≤ m <<< q.toNat then ofMagnitude negative infinityMagnitude
    else nearest negative (m <<< q.toNat) (1 <<< (-q).toNat)

def ofNat (n : Nat) : Double := nearest false n 1

def ofInt (i : Int) : Double := nearest (decide (i < 0)) i.natAbs 1

/-- The rounded product of two finite doubles. -/
def mul (a b : Double) : Double :=
  let q := a.exponent + b.exponent
  nearest (a.isNegative != b.isNegative)
    ((a.significand * b.significand) <<< q.toNat) (1 <<< (-q).toNat)

/-- The rounded quotient of two finite doubles, the second not zero. -/
def div (a b : Double) : Double :=
  let q := a.exponent - b.exponent
  nearest (a.isNegative != b.isNegative)
    (a.significand <<< q.toNat) (b.significand <<< (-q).toNat)

/-- The rounded sum of two doubles that are finite and not negative. -/
def add (a b : Double) : Double :=
  let q := min a.exponent b.exponent
  let sum := a.significand <<< (a.exponent - q).toNat
    + b.significand <<< (b.exponent - q).toNat
  nearest false (sum <<< q.toNat) (1 <<< (-q).toNat)

end Double

end EventMixing
