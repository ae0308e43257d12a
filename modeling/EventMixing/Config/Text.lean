import EventMixing.Config
import EventMixing.Json.Record
import EventMixing.Json.Writing

/-!
# The text of a configuration

A configuration is a JSON record of `axes` and perhaps a `mixing_depth`, an axis a
record of its `variable` and `edges`. A depth of zero is refused once the whole text
has been read.
-/

namespace EventMixing

/-! ## Reading -/

namespace AxisConfig

structure Draft where
  observable : Option Variable := none
  edges : Option (List Double) := none

def variableReader : Json.Reader Variable :=
  Json.Reader.text fun name => (Variable.ofName name).mapError MixingError.message

def schema : Json.Schema Draft AxisConfig where
  name := "struct AxisConfig"
  fields := [
    { name := "variable"
      required := true
      isSet := (·.observable.isSome)
      value := variableReader.map fun v draft => { draft with observable := some v } },
    { name := "edges"
      required := true
      isSet := (·.edges.isSome)
      value := Json.Reader.double.list.map fun es draft => { draft with edges := some es } }]
  start := {}
  finish draft :=
    match draft.observable, draft.edges with
    | none, _ => .error (.missingField "variable")
    | some _, none => .error (.missingField "edges")
    | some observable, some edges => .ok { observable, edges }

end AxisConfig

namespace MixingConfig

structure Draft where
  axes : Option (List AxisConfig) := none
  mixingDepth : Option (Option UInt64) := none

def schema : Json.Schema Draft MixingConfig where
  name := "struct MixingConfig"
  fields := [
    { name := "axes"
      required := true
      isSet := (·.axes.isSome)
      value := AxisConfig.schema.reader.list.map fun as draft => { draft with axes := some as } },
    { name := "mixing_depth"
      required := false
      isSet := (·.mixingDepth.isSome)
      value := Json.Reader.optionalNatural.map fun depth draft =>
        { draft with mixingDepth := some depth } }]
  start := {}
  finish draft :=
    match draft.axes with
    | none => .error (.missingField "axes")
    | some axes => .ok { axes, mixingDepth := draft.mixingDepth.getD none }

/-- The configuration that a text spells. -/
def ofText (text : String) : Outcome MixingConfig :=
  match schema.reader.readText text.toList with
  | .error fault => .error ⟨["Failed to parse mixing config JSON"], .json fault⟩
  | .ok config =>
    if config.mixingDepth = some 0 then .refuse "mixing_depth must be at least 1"
    else .ok config

/-! ## Writing -/

def axisDocument (axis : AxisConfig) : Json.Document :=
  .object [
    ("variable", .text axis.observable.name),
    ("edges", .list (axis.edges.map .real))]

/-- The document of a configuration; a depth that is not given is left out. -/
def document (c : MixingConfig) : Json.Document :=
  .object (("axes", .list (c.axes.map axisDocument))
    :: c.mixingDepth.toList.map fun depth => ("mixing_depth", .natural depth.toNat))

def toText (c : MixingConfig) : String := c.document.compact

end MixingConfig

end EventMixing
