import EventMixing.Files.Path
import EventMixing.Report.Duration
import EventMixing.Text.Digits

/-!
# What a run says on the way

The texts that a run prints as it goes, each with its line ends. Widths are counted in
characters, also where a character takes two columns of the terminal.
-/

namespace EventMixing.Console

def underline : String := "".pushn '─' 50

def banner (version : String) : String :=
  "\n\n"
    ++ "     ___ __   __ __  __  ___ __  __\n"
    ++ "    | __|\\ \\ / /|  \\/  ||_ _|\\ \\/ /\n"
    ++ "    | _|  \\ V / | |\\/| | | |  >  <\n"
    ++ "    |___|  \\_/  |_|  |_||___|/_/\\_\\\n"
    ++ "    \n"
    ++ "    Event categorization for event mixing\n"
    ++ "    v" ++ version ++ "\n"
    ++ "    " ++ "".pushn '━' 50 ++ "\n"
    ++ "\n"

/-- A text of at most so many characters: a longer one loses its beginning to three
dots. -/
def truncated (limit : Nat) (text : String) : String :=
  if text.length ≤ limit then text
  else "..." ++ String.ofList (text.toList.drop (text.length - (limit - 3)))

/-- The card with the files of a run and the size of its grid. -/
def configCard (input config output : Path) (axes : Nat) (total : UInt64) (depth : Nat) :
    String :=
  let line := "".pushn '─' 54
  let file (label : String) (path : Path) :=
    "    │  " ++ label ++ padRight 39 (truncated 38 path.text) ++ "│\n"
  "    ┌" ++ line ++ "┐\n"
    ++ "    │ ⚙️  Configuration" ++ "".pushn ' ' 36 ++ "│\n"
    ++ "    ├" ++ line ++ "┤\n"
    ++ file "📂  Input:  " input
    ++ file "🧮  Config: " config
    ++ file "💾  Output: " output
    ++ "    ├" ++ line ++ "┤\n"
    ++ "    │  🧮  Axes / categories:     "
      ++ padRight 24 (toString axes ++ " / " ++ toString total.toNat) ++ "│\n"
    ++ "    │  📦  Pool depth:            " ++ padRight 24 (toString depth) ++ "│\n"
    ++ "    └" ++ line ++ "┘\n"
    ++ "\n"

def stepHeader (number : Nat) (title : String) : String :=
  "\n    STEP " ++ toString number ++ " │ " ++ title ++ "\n    " ++ underline ++ "\n"

def success (message : String) : String := "    ✓ " ++ message ++ "\n"

def info (message : String) : String := "    ℹ️   " ++ message ++ "\n"

def warning (message : String) : String := "    ⚠️   " ++ message ++ "\n"

def stepTime (elapsed : Duration) : String := "    ⏱  " ++ elapsed.text ++ "\n"

def completion : String := "\n    🚀  evmix categorization complete!\n\n"

/-- How many of something were found, perhaps with a remark. -/
def count (description : String) (n : Nat) (remark : Option String) : String :=
  "      Found " ++ toString n ++ " " ++ description
    ++ (match remark with
      | some remark => " " ++ remark
      | none => "")
    ++ "\n"

/-- What is known of a table once it has been read. -/
def tableStatistics (rows columns bytes : Nat) : String :=
  let megabytes := (Double.ofNat bytes).div (Double.ofNat (1024 * 1024))
  "\n    ✧ Dataset Statistics:\n"
    ++ "      Rows: " ++ toString rows ++ "\n"
    ++ "      Columns: " ++ toString columns ++ "\n"
    ++ "      Estimated memory: " ++ megabytes.fixed 2 ++ " MB\n"

/-! ## Spinners -/

/-- A text with eight blanks for each tab, wherever it stands: the line of a spinner is
drawn over itself, so its width must not hang on the terminal. -/
def withoutTabs (text : String) : String := "        ".intercalate (text.splitOn "\t")

/-- A sign of life beside a message, until its work is done. -/
structure Spinner where
  message : String
  finished : Bool

namespace Spinner

def start (message : String) : Spinner := ⟨withoutTabs message, false⟩

/-- The work is done. -/
def succeed (_ : Spinner) (message : String) : Spinner :=
  ⟨"✅ " ++ withoutTabs message, true⟩

/-- The work is done, but not all is well. -/
def warn (_ : Spinner) (message : String) : Spinner :=
  ⟨"⚠️  " ++ withoutTabs message, true⟩

end Spinner

end EventMixing.Console
