import EventMixing.Files.Fault
import EventMixing.Json.Fault
import EventMixing.MixingError
import EventMixing.Text.Digits

/-!
# How a command fails

A failure is what went wrong at the root and, around it, what was being done, the
innermost first. It is told as one line, or as a report with the causes below.
-/

namespace EventMixing

/-- What went wrong at the root. -/
inductive Cause where
  | mixing (e : MixingError)
  | json (fault : Json.Fault)
  | file (fault : FileFault)
  /-- A table that cannot be read, converted or written. -/
  | table (reason : String)
  /-- What was asked for makes no sense. -/
  | refused (reason : String)
deriving DecidableEq, Repr

def Cause.message : Cause → String
  | .mixing e => e.message
  | .json fault => fault.message
  | .file fault => fault.message
  | .table reason => reason
  | .refused reason => reason

/-- A root cause in its contexts, the outermost first. -/
structure Failure where
  contexts : List String
  cause : Cause
deriving DecidableEq, Repr

namespace Failure

instance : Coe Cause Failure := ⟨fun cause => ⟨[], cause⟩⟩

/-- The failure of something that was done as part of something else. -/
def within (context : String) (f : Failure) : Failure :=
  { f with contexts := context :: f.contexts }

def levels (f : Failure) : List String := f.contexts ++ [f.cause.message]

/-- All levels in one line. -/
def chain (f : Failure) : String := ": ".intercalate f.levels

/-- A cause below the first line, its own further lines indented as far as its first. -/
def causeLine (number : Option Nat) (text : String) : String :=
  let (mark, indent) := match number with
    | none => ("    ", "    ")
    | some n => (padLeft 5 ' ' (toString n) ++ ": ", "       ")
  mark ++ ("\n" ++ indent).intercalate (text.splitOn "\n")

/-- The report with the causes on lines of their own, numbered if there are several. -/
def report (f : Failure) : String :=
  match f.levels with
  | [] => "Error: \n"
  | [only] => "Error: " ++ only ++ "\n"
  | [first, cause] => "Error: " ++ first ++ "\n\nCaused by:\n" ++ causeLine none cause ++ "\n"
  | first :: causes =>
    "Error: " ++ first ++ "\n\nCaused by:\n"
      ++ "\n".intercalate (causes.zipIdx.map fun (text, n) => causeLine (some n) text) ++ "\n"

end Failure

/-- What a step of a command comes to. -/
abbrev Outcome (α : Type) := Except Failure α

namespace Outcome

variable {α : Type}

def within (context : String) (o : Outcome α) : Outcome α := o.mapError (·.within context)

/-- A step that sets up axes, a grid or pools. -/
def ofMixing (result : Except MixingError α) : Outcome α :=
  result.mapError fun e => ⟨[], .mixing e⟩

/-- A step that reads or writes a file. -/
def ofFile (result : Except FileFault α) : Outcome α :=
  result.mapError fun fault => ⟨[], .file fault⟩

def refuse (reason : String) : Outcome α := .error ⟨[], .refused reason⟩

/-- A step on a table that fails. -/
def tableFault (reason : String) : Outcome α := .error ⟨[], .table reason⟩

end Outcome

end EventMixing
