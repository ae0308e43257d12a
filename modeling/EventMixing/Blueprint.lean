import EventMixing.Grid
import EventMixing.VariableSet

/-!
# Planning a grid

A blueprint collects axes in the order of their registration, the same variable as
often as wanted, and `build` freezes them into a grid. Registering is all or nothing:
edges that make no axis leave blueprint and registry as they were, and a registry
hears of a variable only once its axis stands.
-/

namespace EventMixing

/-- The axes registered so far. -/
structure Blueprint where
  axes : List Axis
deriving DecidableEq

namespace Blueprint

def empty : Blueprint := ⟨[]⟩

/-- The blueprint with one more axis, and the registry that has heard of it. -/
def register {ρ : Type} [VariableRegistry ρ] (b : Blueprint) (v : Variable)
    (edges : Array Double) (registry : ρ) : Except MixingError (Blueprint × ρ) :=
  match Axis.ofEdges v edges with
  | .ok axis => .ok (⟨b.axes ++ [axis]⟩, VariableRegistry.markUsed registry v)
  | .error e => .error e

def size (b : Blueprint) : Nat := b.axes.length

def isEmpty (b : Blueprint) : Bool := b.axes.isEmpty

/-- The position of the last axis on a variable, found from the end. -/
def lookup? (b : Blueprint) (v : Variable) : Option Nat :=
  (b.axes.reverse.findIdx? (·.observable = v)).map fun i => b.axes.length - 1 - i

/-- The edges of every axis on a variable, in order. -/
def limits (b : Blueprint) (v : Variable) : List Double := Axis.limits b.axes v

/-! ## Freezing -/

/-- A product that fits in 64 bits. -/
def checkedMul (a : UInt64) (n : Nat) : Option UInt64 :=
  if a.toNat * n < UInt64.size then some (UInt64.ofNat (a.toNat * n)) else none

theorem checkedMul_eq_some_iff {a b : UInt64} {n : Nat} :
    checkedMul a n = some b ↔ b.toNat = a.toNat * n := by
  have := b.toNat_lt_size
  unfold checkedMul
  split
  · simp only [Option.some.injEq]
    constructor
    · rintro rfl
      simpa using ‹_›
    · intro h
      rw [← h, UInt64.ofNat_toNat]
  · simp
    omega

theorem checkedMul_eq_none_iff {a : UInt64} {n : Nat} :
    checkedMul a n = none ↔ UInt64.size ≤ a.toNat * n := by
  simp [checkedMul]

/-- The axes with their weights and the product of their bin counts, reckoned from the
last axis on. -/
def layOut? : List Axis → Option (List Place × UInt64)
  | [] => some ([], 1)
  | axis :: rest =>
    match layOut? rest with
    | none => none
    | some (places, cells) =>
      (checkedMul cells axis.binCount).map fun total => (⟨axis, cells⟩ :: places, total)

/-- For each variable the position of the last axis on it, entered from the first
axis on. -/
def lastPositions (axes : List Axis) : Vector (Option Nat) Variable.count :=
  axes.zipIdx.foldl (fun table (axis, position) => axis.observable.setEntry table (some position))
    (Vector.replicate Variable.count none)

/-- The grid of the axes registered so far. -/
def build (b : Blueprint) : Except MixingError Grid :=
  match layOut? b.axes with
  | none => .error .tooManyCategories
  | some (places, cells) =>
    .ok {
      places
      total := if b.isEmpty then 0 else cells
      lastOn := lastPositions b.axes }

end Blueprint

end EventMixing
