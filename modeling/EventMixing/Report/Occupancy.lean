import EventMixing.Failure
import EventMixing.Grid
import EventMixing.Json.Writing
import EventMixing.Pooling
import EventMixing.Script

/-!
# The occupancy report

The report tells of every occupied category how many rows it has, how many pairs they
make and which cell of the grid it is, along with the grid itself and the totals. A
category that the grid does not have is listed without bins.
-/

namespace EventMixing

/-- The version that reports and banners show. -/
def programVersion : String := "0.1.0"

/-- What a report says about its run. -/
structure ReportOrigin where
  inputFile : String
  configFile : String
  mixingDepth : Nat

structure ReportedBin where
  observable : Variable
  bin : Nat
  lower : Double
  upper : Double
deriving DecidableEq

structure ReportedCategory where
  category : UInt64
  events : Nat
  mixedPairs : Nat
  bins : List ReportedBin
deriving DecidableEq

structure OccupancyReport where
  timestamp : String
  origin : ReportOrigin
  rows : Nat
  categorized : Nat
  rejected : Nat
  totalCategories : UInt64
  occupiedCategories : Nat
  mixedPairs : Nat
  axes : List Axis
  categories : List ReportedCategory

namespace OccupancyReport

def binsOf (g : Grid) (category : UInt64) : List ReportedBin :=
  match g.cell? category with
  | none => []
  | some cell => cell.filterMap fun (axis, bin) =>
    (axis.binBounds? bin).map fun (lower, upper) => ⟨axis.observable, bin, lower, upper⟩

def build (g : Grid) (p : Pooling) (origin : ReportOrigin) (timestamp : String) :
    OccupancyReport where
  timestamp
  origin
  rows := p.rows
  categorized := p.categorized
  rejected := p.rejected
  totalCategories := g.total
  occupiedCategories := p.occupancy.length
  mixedPairs := p.pairs.length
  axes := g.axes
  categories := p.occupancy.map fun o =>
    ⟨o.category, o.events, o.mixedPairs, binsOf g o.category⟩

/-! ## As JSON -/

def axisDocument (axis : Axis) : Json.Document :=
  .object [
    ("variable", .text axis.observable.name),
    ("edges", .list (axis.edges.toList.map .real)),
    ("bins", .natural axis.binCount)]

def binDocument (b : ReportedBin) : Json.Document :=
  .object [
    ("variable", .text b.observable.name),
    ("bin", .natural b.bin),
    ("lower", .real b.lower),
    ("upper", .real b.upper)]

def categoryDocument (c : ReportedCategory) : Json.Document :=
  .object [
    ("category", .natural c.category.toNat),
    ("events", .natural c.events),
    ("mixed_pairs", .natural c.mixedPairs),
    ("bins", .list (c.bins.map binDocument))]

def document (r : OccupancyReport) : Json.Document :=
  .object [
    ("metadata", .object [
      ("timestamp", .text r.timestamp),
      ("evmix_version", .text programVersion),
      ("input_file", .text r.origin.inputFile),
      ("config_file", .text r.origin.configFile),
      ("mixing_depth", .natural r.origin.mixingDepth)]),
    ("summary", .object [
      ("rows", .natural r.rows),
      ("categorized", .natural r.categorized),
      ("rejected", .natural r.rejected),
      ("total_categories", .natural r.totalCategories.toNat),
      ("occupied_categories", .natural r.occupiedCategories),
      ("mixed_pairs", .natural r.mixedPairs)]),
    ("axes", .list (r.axes.map axisDocument)),
    ("categories", .list (r.categories.map categoryDocument))]

def save (g : Grid) (p : Pooling) (origin : ReportOrigin) (path : Path) : Command Unit := do
  let report := build g p origin (← Command.timestamp)
  (Command.writeFile path (.text report.document.pretty)).within
    ("Failed to write category occupancy to " ++ path.text)

end OccupancyReport

end EventMixing
