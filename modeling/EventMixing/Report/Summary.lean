import EventMixing.Pooling
import EventMixing.Report.BoxTable
import EventMixing.Report.Console

/-!
# The summary of a run

The counts of a run, and the time of each of its steps that was measured.
-/

namespace EventMixing

structure Summary where
  rows : Nat := 0
  categorized : Nat := 0
  rejected : Nat := 0
  occupiedCategories : Nat := 0
  totalCategories : UInt64
  mixedPairs : Nat := 0
  mixingDepth : Nat
  loadTime : Option Duration := none
  categorizeTime : Option Duration := none
  mixingTime : Option Duration := none
  saveTime : Option Duration := none

namespace Summary

/-- The summary with the counts of a pooling. -/
def addPooling (s : Summary) (p : Pooling) : Summary :=
  { s with
    rows := p.rows
    categorized := p.categorized
    rejected := p.rejected
    occupiedCategories := p.occupancy.length
    mixedPairs := p.pairs.length }

/-- The share of categorized rows, in percent. -/
def acceptance (s : Summary) : Double :=
  if s.rows = 0 then .zero
  else ((Double.ofNat s.categorized).div (Double.ofNat s.rows)).mul (Double.ofNat 100)

/-- A label whose first `symbols` characters show as a symbol of `columns` columns. -/
def label (symbols columns : Nat) (text : String) : Cell :=
  ⟨text, text.length - symbols + columns⟩

def timeRow (name : String) (time : Option Duration) : List (List Cell) :=
  (time.map fun t => [label 1 1 ("⏱  " ++ name), Cell.ofText t.text]).toList

def table (s : Summary) : BoxTable where
  header := [Cell.ofText "Metric", Cell.ofText "Value"]
  rows := [
      [label 1 2 "📁 Events Read", Cell.ofText (toString s.rows)],
      [label 1 2 "✅ Categorized", Cell.ofText (toString s.categorized)],
      [label 2 2 "🗑️  Out of Range", Cell.ofText (toString s.rejected)],
      [label 1 2 "📈 Acceptance", Cell.ofText (s.acceptance.fixed 1 ++ "%")],
      [label 1 2 "🧮 Occupied Categories",
        Cell.ofText (toString s.occupiedCategories ++ " / " ++ toString s.totalCategories.toNat)],
      [label 1 2 "🔀 Mixed Pairs", Cell.ofText (toString s.mixedPairs)],
      [label 1 2 "📦 Pool Depth", Cell.ofText (toString s.mixingDepth)]]
    ++ timeRow "Load" s.loadTime
    ++ timeRow "Categorize" s.categorizeTime
    ++ timeRow "Mixing" s.mixingTime
    ++ timeRow "Save" s.saveTime

def text (s : Summary) : String :=
  "\n    📋 CATEGORIZATION SUMMARY\n    " ++ Console.underline ++ "\n\n" ++ s.table.indented "    "

end Summary

end EventMixing
