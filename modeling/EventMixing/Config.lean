import EventMixing.Blueprint
import EventMixing.Failure

/-!
# Mixing configurations

A configuration lists the axes of a grid in order, with edges that may or may not
make an axis, and perhaps the depth of the pools. `toBlueprint` registers them one
after the other; the registry keeps what it heard before the first that fails.
-/

namespace EventMixing

structure AxisConfig where
  observable : Variable
  edges : List Double
deriving DecidableEq

structure MixingConfig where
  axes : List AxisConfig
  /-- The depth of the pools, unless the command line asks for another. -/
  mixingDepth : Option UInt64
deriving DecidableEq

namespace MixingConfig

def same (a b : MixingConfig) : Bool :=
  a.mixingDepth == b.mixingDepth && a.axes.length == b.axes.length
    && (a.axes.zip b.axes).all fun (x, y) =>
      x.observable == y.observable && x.edges.length == y.edges.length
        && (x.edges.zip y.edges).all fun (d, e) => d.same e

variable {ρ : Type} [VariableRegistry ρ]

/-- Registers axes after those of a blueprint, where `number` is the next one's. -/
def registerAll (blueprint : Blueprint) (registry : ρ) (number : Nat) :
    List AxisConfig → Outcome Blueprint × ρ
  | [] => (.ok blueprint, registry)
  | axis :: rest =>
    match blueprint.register axis.observable axis.edges.toArray registry with
    | .ok (blueprint, registry) => registerAll blueprint registry (number + 1) rest
    | .error e =>
      (.error ⟨["Axis #" ++ toString number ++ " (" ++ axis.observable.name ++ ") is invalid"],
        .mixing e⟩, registry)

/-- The blueprint of the configured axes, and what the registry has heard. -/
def toBlueprint (c : MixingConfig) (registry : ρ) : Outcome Blueprint × ρ :=
  registerAll .empty registry 1 c.axes

/-- The grid of the configured axes, and what the registry has heard. -/
def toGrid (c : MixingConfig) (registry : ρ) : Outcome Grid × ρ :=
  match c.toBlueprint registry with
  | (.ok blueprint, registry) => (.ofMixing blueprint.build, registry)
  | (.error f, registry) => (.error f, registry)

/-- The warning that a grid without axes deserves. -/
def emptyGridWarning : String :=
  "Warning: mixing config has no axes, every event will be rejected\n"

/-- What setting up the grid has to warn of. -/
def warning (grid : Outcome Grid) : String :=
  match grid with
  | .ok grid => if grid.isEmpty then emptyGridWarning else ""
  | .error _ => ""

end MixingConfig

end EventMixing
