import EventMixing.CommandLine
import EventMixing.CommandLine.Help
import EventMixing.Config.Setup
import EventMixing.Dataset
import EventMixing.Report.Occupancy
import EventMixing.Report.Summary
import EventMixing.Table.Pairs

/-!
# What a command does

A run sets up its grid before anything is printed, reads the table, categorizes it and
mixes the rows; then it saves the table, the pairs if they are wanted, and the occupancy
report, in this order. Only the report may fail without the run failing. The other
commands print the cell of a category and the list of variables.
-/

namespace EventMixing

/-! ## Printing cells and variables -/

def intervalText (axis : Axis) (bin : Nat) : String :=
  match axis.binBounds? bin with
  | some (lower, upper) =>
    "[" ++ lower.render .prose ++ ", " ++ upper.render .prose ++ ")"
  | none => ""

def cellRow (position : Nat) (axis : Axis) (bin : Nat) : List Cell := [
  Cell.ofText (toString position),
  Cell.ofText axis.observable.name,
  Cell.ofText (toString bin ++ " / " ++ toString axis.binCount),
  Cell.ofText (intervalText axis bin)]

def cellTable (cell : List (Axis × Nat)) : BoxTable where
  header := ["Axis", "Variable", "Bin", "Range"].map Cell.ofText
  rows := cell.zipIdx.map fun ((axis, bin), position) => cellRow position axis bin

def variableTable : BoxTable where
  header := ["Column", "Description"].map Cell.ofText
  rows := Variable.all.map fun v => [Cell.ofText v.name, Cell.ofText v.description]

/-- Prints the cell of a category on the grid of a configuration. -/
def runDecode (config : Path) (category : UInt64) : Command Unit := do
  let (grid, _) ← (← MixingConfig.load config).setUp
  match grid.cell? category with
  | none => Command.ofOutcome (.refuse ("Category " ++ toString category.toNat
      ++ " is outside the valid range [0, " ++ toString grid.total.toNat ++ ")"))
  | some cell => Command.printed ("\n ◆ Category " ++ toString category.toNat ++ " of "
      ++ toString grid.total.toNat ++ "\n\n" ++ (cellTable cell).indented "   " ++ "\n")

def variablesText : String := "\n" ++ variableTable.indented "   " ++ "\n"

def runVariables : Command Unit := Command.printed variablesText

/-! ## Running over a table -/

def elapsedSince (start : Nat) : Command Duration := do
  return ⟨(← Command.now) - start⟩

/-- A step with its heading; the time that it took comes last. -/
def timedStep {α : Type} (number : Nat) (title : String) (step : Command α) :
    Command (α × Duration) := do
  Command.printed (Console.stepHeader number title)
  let start ← Command.now
  let a ← step
  let elapsed ← elapsedSince start
  Command.printed (Console.stepTime elapsed)
  return (a, elapsed)

/-- What a run works with, once its command line and configuration are known. -/
structure RunPlan where
  input : Path
  config : Path
  output : Path
  /-- Where the mixed pairs go, if they are wanted. -/
  pairs : Option Path
  /-- Where the occupancy report goes, unless it is skipped or has no place. -/
  report : Option Path
  skipReport : Bool
  inferRows : Nat
  grid : Grid
  used : VariableSet
  depth : Nat

namespace RunPlan

def loadStep (plan : RunPlan) : Command Table := do
  let t ← Table.loadEvents plan.input plan.used plan.inferRows
  Command.printed (Console.tableStatistics t.rows t.columns.length t.estimatedBytes)
  return t

/-- Categorizes the table and tells how many rows lie outside the grid. -/
def categorizeStep (plan : RunPlan) (t : Table) :
    Command (List (Option UInt64) × Table) := do
  let (categories, t) ← Command.ofOutcome (t.categorize plan.grid plan.used)
  let rejected := categories.countP Option.isNone
  unless rejected = 0 do
    Command.printed
      (Console.count "event(s) outside the binning range" rejected (some "(no category)"))
  return (categories, t)

def pool (categories : List (Option UInt64)) (depth : Nat) : Outcome Pooling :=
  (Outcome.ofMixing (Pooling.ofCategories categories depth)).within "Invalid mixing depth"

def mixStep (plan : RunPlan) (categories : List (Option UInt64)) : Command Pooling := do
  let pooling ← Command.ofOutcome (pool categories plan.depth)
  Command.printed (if pooling.pairs.isEmpty then
      Console.info "No category holds more than one event, no mixed pairs"
    else
      Console.count "mixed pair(s)" pooling.pairs.length
        (some ("(pool depth " ++ toString plan.depth ++ ")")))
  return pooling

/-- Writes the occupancy report. A failure is told and otherwise passed over. -/
def reportStep (plan : RunPlan) (pooling : Pooling) (path : Path) : Command Unit := do
  let origin : ReportOrigin := ⟨plan.input.text, plan.config.text, plan.depth⟩
  let written ← ExceptT.lift (OccupancyReport.save plan.grid pooling origin path).run
  match written with
  | .ok () => Command.printed (Console.success ("Occupancy report saved to " ++ path.text))
  | .error f =>
    Command.printed (Console.warning ("Failed to write occupancy report: " ++ f.chain))

/-- Saves the table, then the pairs if they are wanted, then the occupancy report. -/
def saveStep (plan : RunPlan) (t : Table) (pooling : Pooling) : Command Unit := do
  t.save plan.output
  if let some path := plan.pairs then
    (Pooling.pairTable pooling.pairs).save path
    Command.printed (Console.success ("Mixed pairs saved to " ++ path.text))
  if plan.skipReport then
    Command.printed (Console.info "Skipping occupancy export")
  else if let some path := plan.report then
    plan.reportStep pooling path

def perform (plan : RunPlan) : Command Unit := do
  Command.printed (Console.banner programVersion
    ++ Console.configCard plan.input plan.config plan.output plan.grid.axes.length
      plan.grid.total plan.depth)
  let (t, loadTime) ← timedStep 1 "Load Events" plan.loadStep
  let ((categories, t), categorizeTime) ←
    timedStep 2 "Categorize Events" (plan.categorizeStep t)
  let (pooling, mixingTime) ← timedStep 3 "Event Mixing" (plan.mixStep categories)
  let ((), saveTime) ← timedStep 4 "Save Results" (plan.saveStep t pooling)
  let summary : Summary := {
    totalCategories := plan.grid.total
    mixingDepth := plan.depth
    loadTime := some loadTime
    categorizeTime := some categorizeTime
    mixingTime := some mixingTime
    saveTime := some saveTime }
  Command.printed ((summary.addPooling pooling).text ++ Console.completion)

end RunPlan

/-! ## Commands -/

namespace CommandLine

/-- Something that a run needs. -/
def need {α : Type} (what : Option α) (reason : String) : Command α :=
  match what with
  | some a => pure a
  | none => Command.ofOutcome (.refuse reason)

/-- The depth of the pools: the command line's, else the configuration's, else the usual
one. -/
def depthOf (c : CommandLine) (config : MixingConfig) : Nat :=
  match c.mixingDepth.or config.mixingDepth with
  | some depth => depth.toNat
  | none => defaultMixingDepth

/-- The plan of a run, for which its configuration is read and its grid set up. -/
def plan (c : CommandLine) : Command RunPlan := do
  let input ← need c.input "Input file is required. Use -i/--input to specify a file."
  let config ← need c.config
    "Binning config is required. Use -c/--config to specify a JSON file."
  let output ← need c.outputPath? "Could not derive an output path from the input"
  let mixing ← MixingConfig.load config
  let (grid, used) ← mixing.setUp
  return {
    input, config, output, grid, used
    pairs := c.pairsOutput
    report := c.occupancyPath?
    skipReport := c.noExport
    inferRows := c.inferSchemaLength
    depth := c.depthOf mixing }

def run (c : CommandLine) : Command Unit :=
  match c.command with
  | some (.decode config category) => runDecode config category
  | some .variables => runVariables
  | none => do (← c.plan).perform

end CommandLine

/-! ## Answering a list of arguments -/

/-- Prints what is wrong with arguments, or what they ask for, and gives the exit code. -/
def answerUsage : UsageError → Script Nat
  | .displayHelp => do
    Script.printed helpText
    return 0
  | .displayVersion => do
    Script.printed ("evmix " ++ programVersion ++ "\n")
    return 0
  | e => do
    Script.warned ("error: " ++ e.message ++ "\n\nFor more information, try '--help'.\n")
    return 2

/-- Does what a list of arguments asks for, reports a failure and gives the exit code. -/
def answer (args : List String) : Script Nat :=
  match CommandLine.parse args with
  | .error e => answerUsage e
  | .ok c => do
    match ← c.run.run with
    | .ok () => return 0
    | .error f =>
      Script.warned f.report
      return 1

end EventMixing
