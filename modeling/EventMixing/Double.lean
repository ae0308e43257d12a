/-!
# Doubles as words

A binary64 number is its 64-bit word. The sign is the top bit and the rest, the
`magnitude`, orders the numbers of one sign: below `infinityMagnitude` lie the
finite ones, above it the NaNs. Comparison therefore needs nothing but an
integer `key`, which sends both zeros to 0; a NaN compares with nothing, itself
included.
-/

namespace EventMixing

/-- An IEEE 754 binary64 number. Equality is equality of words; `Double.same`
compares the numbers. -/
structure Double where
  bits : UInt64
deriving DecidableEq, Repr

namespace Double

def infinityMagnitude : Nat := 2047 <<< 52

def isNegative (d : Double) : Bool := 1 <<< 63 ≤ d.bits.toNat

/-- The word without its sign bit. -/
def magnitude (d : Double) : Nat := d.bits.toNat % 1 <<< 63

def isNaN (d : Double) : Bool := infinityMagnitude < d.magnitude

def isFinite (d : Double) : Bool := d.magnitude < infinityMagnitude

def ofMagnitude (negative : Bool) (magnitude : Nat) : Double :=
  ⟨UInt64.ofNat (magnitude % 1 <<< 63 + if negative then 1 <<< 63 else 0)⟩

def zero : Double := ofMagnitude false 0

def infinity : Double := ofMagnitude false infinityMagnitude

def nan : Double := ofMagnitude false (infinityMagnitude + 1 <<< 51)

def neg (d : Double) : Double := ofMagnitude (!d.isNegative) d.magnitude

/-! ## Order -/

/-- Numbers that are no NaN compare as their keys do. -/
def key (d : Double) : Int :=
  if d.isNegative then -(d.magnitude : Int) else d.magnitude

/-- Both sides are numbers. -/
def Comparable (a b : Double) : Prop := a.isNaN = false ∧ b.isNaN = false

instance (a b : Double) : Decidable (Comparable a b) :=
  inferInstanceAs (Decidable (_ ∧ _))

instance : LT Double := ⟨fun a b => Comparable a b ∧ a.key < b.key⟩

instance : LE Double := ⟨fun a b => Comparable a b ∧ a.key ≤ b.key⟩

instance (a b : Double) : Decidable (a < b) :=
  inferInstanceAs (Decidable (Comparable a b ∧ a.key < b.key))

instance (a b : Double) : Decidable (a ≤ b) :=
  inferInstanceAs (Decidable (Comparable a b ∧ a.key ≤ b.key))

theorem lt_def {a b : Double} : a < b ↔ Comparable a b ∧ a.key < b.key := Iff.rfl

theorem le_def {a b : Double} : a ≤ b ↔ Comparable a b ∧ a.key ≤ b.key := Iff.rfl

/-- Numeric equality: the zeros are the same, a NaN is the same as nothing. -/
def same (a b : Double) : Bool := decide (Comparable a b) && a.key == b.key

/-! ## Significand and exponent -/

/-- The integer factor of a finite number `± significand * 2 ^ exponent`. -/
def significand (d : Double) : Nat :=
  if d.magnitude < 1 <<< 52 then d.magnitude else 1 <<< 52 + d.magnitude % 1 <<< 52

/-- The power of two of a finite number `± significand * 2 ^ exponent`. -/
def exponent (d : Double) : Int :=
  (max 1 (d.magnitude >>> 52) : Nat) - 1075

end Double

end EventMixing
