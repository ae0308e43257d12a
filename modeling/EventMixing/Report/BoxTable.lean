/-!
# Tables drawn with lines

A table has a header and rows of cells. Each column is as wide as its widest cell and a
blank on either side; a double line parts the header from the rows and nothing parts the
rows from each other. A cell knows how many columns of the terminal its text takes.
-/

namespace EventMixing

/-- A text and the number of terminal columns that it takes. -/
structure Cell where
  text : String
  width : Nat

def Cell.ofText (text : String) : Cell := ⟨text, text.length⟩

/-- A header and rows of as many cells. -/
structure BoxTable where
  header : List Cell
  rows : List (List Cell)

namespace BoxTable

/-- The greater of the widths in each column. -/
def widen : List Nat → List Cell → List Nat
  | [], cells => cells.map (·.width)
  | widths, [] => widths
  | width :: widths, cell :: cells => max width cell.width :: widen widths cells

def widths (t : BoxTable) : List Nat := (t.header :: t.rows).foldl widen []

/-- A line across the table: its left end, filling, crossings and right end. -/
def rule (left fill cross right : Char) (widths : List Nat) : String :=
  let pieces := widths.map fun width => "".pushn fill (width + 2)
  left.toString ++ cross.toString.intercalate pieces ++ right.toString

def padded (width : Nat) (cell : Cell) : String :=
  " " ++ cell.text.pushn ' ' (width - cell.width) ++ " "

def rowLine (widths : List Nat) (cells : List Cell) : String :=
  "│" ++ "┆".intercalate (widths.zipWith padded cells) ++ "│"

def lines (t : BoxTable) : List String :=
  let widths := t.widths
  [rule '┌' '─' '┬' '┐' widths, rowLine widths t.header, rule '╞' '═' '╪' '╡' widths]
    ++ t.rows.map (rowLine widths) ++ [rule '└' '─' '┴' '┘' widths]

/-- The lines, each behind an indent and with its line end. -/
def indented (indent : String) (t : BoxTable) : String :=
  String.join (t.lines.map fun line => indent ++ line ++ "\n")

end BoxTable

end EventMixing
