import EventMixing.Variable

/-!
# Errors of a mixing setup

Only setting up can fail: edges that make no axis, a grid with too many cells, a
pool that keeps nothing, a name that means no variable. An event outside the grid
is no error.
-/

namespace EventMixing

/-- Why axes, a grid or pools cannot be set up. -/
inductive MixingError where
  /-- Fewer than two edges leave no bin. -/
  | tooFewEdges (axis : Variable) (count : Nat)
  /-- The edge at `index` is infinite or no number. -/
  | nonFiniteEdge (axis : Variable) (index : Nat)
  /-- The edge at `index` does not exceed the one before it. -/
  | unsortedEdges (axis : Variable) (index : Nat)
  /-- The number of cells does not fit in 64 bits. -/
  | tooManyCategories
  /-- A pool keeps at least one event. -/
  | zeroPoolDepth
  /-- No variable has this name. -/
  | unknownVariable (name : String)
deriving DecidableEq, Repr

def MixingError.message : MixingError → String
  | .tooFewEdges axis count =>
    "Variable '" ++ axis.name ++ "' needs at least 2 bin edges, got " ++ toString count
  | .nonFiniteEdge axis index =>
    "Variable '" ++ axis.name ++ "' has a non-finite bin edge at position " ++ toString index
  | .unsortedEdges axis index =>
    "Variable '" ++ axis.name ++ "' bin edges must be strictly ascending (violated at position "
      ++ toString index ++ ")"
  | .tooManyCategories =>
    "Number of categories overflows: the binning grid is too large"
  | .zeroPoolDepth => "Mixing pool depth must be at least 1"
  | .unknownVariable name => "Unknown mixing variable '" ++ name ++ "'"

/-- The variable of a name; the error keeps the name as it was given. -/
def Variable.ofName (text : String) : Except MixingError Variable :=
  match ofName? text with
  | some v => .ok v
  | none => .error (.unknownVariable text)

end EventMixing
