import EventMixing.Axis

/-!
# The numbered cells of a grid

A cell of the grid is one bin on every axis, and its number, the category, is the
mixed-radix number with the bins as digits, the earliest axis the most significant.
Each axis stands in the grid with the weight of its digit. All arithmetic is on
64-bit words; a grid made by `Blueprint.build` never wraps around.
-/

namespace EventMixing

/-- An axis and the weight of its digit. -/
structure Place where
  axis : Axis
  weight : UInt64
deriving DecidableEq

/-- Axes with their weights, the number of cells (none without an axis), and for
each variable the position of the last axis on it. -/
structure Grid where
  places : List Place
  total : UInt64
  lastOn : Vector (Option Nat) Variable.count
deriving DecidableEq

/-- The edges of every axis on a variable, one axis after the other. -/
def Axis.limits (axes : List Axis) (v : Variable) : List Double :=
  (axes.filter (·.observable = v)).flatMap (·.edges.toList)

namespace Place

/-- The place's digit of a category: the bin on its axis. -/
def digit (p : Place) (category : UInt64) : Nat :=
  (category / p.weight).toNat % p.axis.binCount

/-- What a bin on the axis adds to the category. -/
def share (p : Place) (bin : Nat) : UInt64 := UInt64.ofNat bin * p.weight

end Place

namespace Grid

def axes (g : Grid) : List Axis := g.places.map (·.axis)

def isEmpty (g : Grid) : Bool := g.places.isEmpty

/-- The position of the last axis on a variable. -/
def lookup? (g : Grid) (v : Variable) : Option Nat := v.entry g.lastOn

def limits (g : Grid) (v : Variable) : List Double := Axis.limits g.axes v

/-! ## From values to a category -/

/-- The bin on each axis, if the event lies on every one. -/
def binIndices? (g : Grid) (values : Observables) : Option (List Nat) :=
  if g.isEmpty then none
  else g.axes.mapM fun axis => axis.findBin? (values.get axis.observable)

/-- The sum of the shares of an event's bins, added to `sum`; none as soon as the
event misses an axis. -/
def sumOfBins? (values : Observables) (sum : UInt64) : List Place → Option UInt64
  | [] => some sum
  | p :: rest =>
    match p.axis.findBin? (values.get p.axis.observable) with
    | some bin => sumOfBins? values (sum + p.share bin) rest
    | none => none

/-- The category of an event: none outside the grid, or where there is no axis. -/
def categorize? (g : Grid) (values : Observables) : Option UInt64 :=
  if g.isEmpty then none else sumOfBins? values 0 g.places

/-! ## Between bins and categories -/

/-- The sum of the shares of given bins, one for each place. -/
def sumOfShares? (sum : UInt64) : List Place → List Nat → Option UInt64
  | [], [] => some sum
  | p :: places, bin :: bins =>
    if bin < p.axis.binCount then sumOfShares? (sum + p.share bin) places bins else none
  | _, _ => none

/-- The category of the cell with the given bins, one for each axis in order. -/
def encode? (g : Grid) (bins : List Nat) : Option UInt64 :=
  if g.isEmpty then none else sumOfShares? 0 g.places bins

/-- The bins of a category, one for each axis in order. -/
def decode? (g : Grid) (category : UInt64) : Option (List Nat) :=
  if category < g.total then some (g.places.map (·.digit category)) else none

/-- The last axis on a variable and the bin on it. -/
def decodePlace? (g : Grid) (v : Variable) (category : UInt64) : Option (Axis × Nat) :=
  match g.lookup? v with
  | none => none
  | some position =>
    match g.places[position]? with
    | none => none
    | some p => if category < g.total then some (p.axis, p.digit category) else none

/-- The bin of a category on the last axis on a variable. -/
def decodeAxis? (g : Grid) (v : Variable) (category : UInt64) : Option Nat :=
  (g.decodePlace? v category).map (·.2)

/-- The bounds of a category's bin on the last axis on a variable. -/
def binRange? (g : Grid) (v : Variable) (category : UInt64) : Option (Double × Double) :=
  (g.decodePlace? v category).bind fun (axis, bin) => axis.binBounds? bin

/-- Each axis with the bin of the category on it. -/
def cell? (g : Grid) (category : UInt64) : Option (List (Axis × Nat)) :=
  (g.decode? category).map g.axes.zip

def same (a b : Grid) : Bool :=
  a.total == b.total && a.lastOn == b.lastOn && a.places.length == b.places.length
    && (a.places.zip b.places).all fun (p, q) => p.axis.same q.axis && p.weight == q.weight

end Grid

end EventMixing
