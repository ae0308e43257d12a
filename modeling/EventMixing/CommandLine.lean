import EventMixing.CommandLine.Grammar
import EventMixing.Files.Path
import EventMixing.Text.Natural

/-!
# The command line

A command line asks for a run over a table, for the cell of a category, or for the list
of variables. The options of a run stand before a subcommand, which has its own. Output
paths that are not given are derived from the input's. Arguments that are no texts are left
out.
-/

namespace EventMixing

/-- What may be asked for instead of a run. -/
inductive Subcommand where
  /-- The cell of a category. -/
  | decode (config : Path) (category : UInt64)
  /-- The list of variables. -/
  | variables
deriving DecidableEq, Repr

structure CommandLine where
  input : Option Path := none
  config : Option Path := none
  output : Option Path := none
  mixingDepth : Option UInt64 := none
  pairsOutput : Option Path := none
  noExport : Bool := false
  inferSchemaLength : Nat := 10000
  command : Option Subcommand := none
deriving DecidableEq, Repr

namespace CommandLine

/-! ## Values -/

/-- A path, which may not be empty. -/
def pathValue (value : String) : Except UsageError Path :=
  if value.isEmpty then .error .invalidValue else .ok ⟨value⟩

def naturalValue (value : String) : Except UsageError Nat :=
  (readNatural value.toList).mapError fun fault => .valueValidation fault.message

/-- The depth of the pools, a whole number from one on. -/
def depthValue (value : String) : Except UsageError UInt64 :=
  match readNatural value.toList with
  | .error _ => .error (.valueValidation ("'" ++ value ++ "' is not a valid positive integer"))
  | .ok 0 => .error (.valueValidation "mixing_depth must be at least 1")
  | .ok n => .ok (UInt64.ofNat n)

/-! ## The options of a run -/

inductive Switch where
  | input
  | config
  | output
  | mixingDepth
  | pairsOutput
  | noExport
  | inferSchemaLength
  | help
  | version
deriving DecidableEq, Repr

namespace Switch

def long? : String → Option Switch
  | "input" => some input
  | "config" => some config
  | "output" => some output
  | "mixing-depth" => some mixingDepth
  | "pairs-output" => some pairsOutput
  | "no-export" => some noExport
  | "infer-schema-length" => some inferSchemaLength
  | "help" => some help
  | "version" => some version
  | _ => none

def short? : Char → Option Switch
  | 'i' => some input
  | 'c' => some config
  | 'o' => some output
  | 'h' => some help
  | 'V' => some version
  | _ => none

def takesValue : Switch → Bool
  | noExport | help | version => false
  | _ => true

def enter (key : Switch) (value : String) (c : CommandLine) : Except UsageError CommandLine :=
  match key with
  | input => (pathValue value).map fun p => { c with input := some p }
  | config => (pathValue value).map fun p => { c with config := some p }
  | output => (pathValue value).map fun p => { c with output := some p }
  | mixingDepth => (depthValue value).map fun n => { c with mixingDepth := some n }
  | pairsOutput => (pathValue value).map fun p => { c with pairsOutput := some p }
  | noExport => .ok { c with noExport := true }
  | inferSchemaLength => (naturalValue value).map fun n => { c with inferSchemaLength := n }
  | help => .error .displayHelp
  | version => .error .displayVersion

end Switch

def isSubcommand (name : String) : Bool :=
  name = "decode" || name = "variables" || name = "help"

def topLevel : Level Switch CommandLine where
  long? := Switch.long?
  short? := Switch.short?
  takesValue := Switch.takesValue
  position? _ := none
  enter := Switch.enter
  isSubcommand := isSubcommand
  stray afterDashes arg :=
    if afterDashes && isSubcommand arg then .unknownArgument else .invalidSubcommand

/-! ## Subcommands -/

inductive DecodeArg where
  | config
  | category
  | help
deriving DecidableEq, Repr

structure DecodeDraft where
  config : Option Path := none
  category : Option UInt64 := none

def decodeLevel : Level DecodeArg DecodeDraft where
  long?
    | "config" => some .config
    | "help" => some .help
    | _ => none
  short?
    | 'c' => some .config
    | 'h' => some .help
    | _ => none
  takesValue key := key = .config
  position?
    | 0 => some .category
    | _ => none
  enter key value d :=
    match key with
    | .config => (pathValue value).map fun p => { d with config := some p }
    | .category => (naturalValue value).map fun n => { d with category := some (UInt64.ofNat n) }
    | .help => .error .displayHelp
  isSubcommand _ := false
  stray _ _ := .unknownArgument

/-- The level of a subcommand without arguments. -/
def bareLevel : Level Unit Unit where
  long?
    | "help" => some ()
    | _ => none
  short?
    | 'h' => some ()
    | _ => none
  takesValue _ := false
  position? _ := none
  enter _ _ _ := .error .displayHelp
  isSubcommand _ := false
  stray _ _ := .unknownArgument

/-- All arguments of a level that has no subcommands. -/
def readAll {κ σ : Type} [DecidableEq κ] (level : Level κ σ) (start : σ) (args : List String) :
    Except UsageError σ := do
  let (r, _) ← level.readArgs ⟨start, [], .nothing, 0⟩ args
  let r ← level.settle r
  return r.settings

/-- What `decode` needs. -/
def readDecode (args : List String) : Except UsageError Subcommand :=
  match readAll decodeLevel {} args with
  | .error e => .error e
  | .ok ⟨some config, some category⟩ => .ok (.decode config category)
  | .ok _ => .error .missingRequiredArgument

/-- Help on a subcommand, or on none. -/
def helpOn : List String → UsageError
  | [] => .displayHelp
  | [name] => if isSubcommand name then .displayHelp else .invalidSubcommand
  | _ => .invalidSubcommand

def readSubcommand (name : String) (args : List String) : Except UsageError Subcommand :=
  match name with
  | "decode" => readDecode args
  | "variables" => (readAll bareLevel () args).map fun _ => .variables
  | _ => .error (helpOn args)

/-! ## The whole line -/

/-- The command line of a list of arguments. A subcommand is read before the last option
in front of it is entered. -/
def parse (args : List String) : Except UsageError CommandLine := do
  let (r, subcommand) ← topLevel.readArgs ⟨{}, [], .nothing, 0⟩ args
  let command ← match subcommand with
    | none => .ok none
    | some (name, rest) => (readSubcommand name rest).map some
  let r ← topLevel.settle r
  return { r.settings with command }

/-! ## Derived paths -/

/-- The folder of a file, the working folder if it has none. -/
def folderOf (input : Path) : Path := input.parent?.getD ⟨"."⟩

/-- Where the categorized table goes: beside the input unless told otherwise. -/
def outputPath? (c : CommandLine) : Option Path :=
  c.input.map fun input =>
    c.output.getD ((folderOf input).join
      (input.stem?.getD "output" ++ "_categorized." ++ input.extension?.getD "parquet"))

/-- Where the occupancy report goes: beside the input, if that names a file. -/
def occupancyPath? (c : CommandLine) : Option Path :=
  c.input.bind fun input =>
    input.stem?.map fun stem => (folderOf input).join (stem ++ "_occupancy.json")

end CommandLine

end EventMixing
