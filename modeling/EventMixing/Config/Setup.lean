import EventMixing.Config.Text
import EventMixing.Script

/-!
# From a configuration file to a grid

A configuration is read from its file, its axes are registered and the grid is built. A
grid without axes is warned of and otherwise a grid like any other.
-/

namespace EventMixing

namespace MixingConfig

def textOf : FileContent → Outcome String
  | .text s => .ok s
  | .table _ => .ofFile (.error .notText)

def load (path : Path) : Command MixingConfig := do
  let text ← Command.within ("Failed to read mixing config: " ++ path.text) do
    Command.ofOutcome (textOf (← Command.readFile path))
  (Command.ofOutcome (ofText text)).within ("Invalid mixing config: " ++ path.text)

/-- The grid of a configuration and the variables in use; tells of a grid without axes. -/
def setUp (c : MixingConfig) : Command (Grid × VariableSet) := do
  let (grid, used) := c.toGrid VariableSet.empty
  let text := warning grid
  unless text.isEmpty do Command.warned text
  return (← Command.ofOutcome grid, used)

end MixingConfig

end EventMixing
