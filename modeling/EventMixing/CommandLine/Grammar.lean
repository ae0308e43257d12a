/-!
# Arguments of a command line

One level of a command line has options, some of them with a value, positions for other
arguments, and names of subcommands. Arguments are taken from the left. An option waits
for its value in the next argument, unless that is an option itself; it is entered only
when the next option or position comes, or at the end, and an error in it counts from
then. A double dash makes positions of all that follows.
-/

namespace EventMixing

/-- Why arguments are not a command. Asking for help or for the version ends reading too. -/
inductive UsageError where
  /-- A value that its option refuses. -/
  | valueValidation (message : String)
  /-- A value that is missing, or empty where it must not be. -/
  | invalidValue
  | unknownArgument
  | invalidSubcommand
  | missingRequiredArgument
  /-- An option given twice. -/
  | argumentConflict
  /-- A value for an option that takes none. -/
  | tooManyValues
  | displayHelp
  | displayVersion
deriving DecidableEq, Repr

namespace CommandLine

/-- A level with arguments `κ` that make settings `σ`. -/
structure Level (κ σ : Type) where
  /-- The option after two dashes. -/
  long? : String → Option κ
  /-- The option after one dash. -/
  short? : Char → Option κ
  takesValue : κ → Bool
  /-- The argument that stands at a position. -/
  position? : Nat → Option κ
  /-- Enters an argument with its value. -/
  enter : κ → String → σ → Except UsageError σ
  isSubcommand : String → Bool
  /-- The error of an argument without a position, before a double dash or after it. -/
  stray : Bool → String → UsageError

/-- An argument that has not been entered yet. -/
inductive Pending (κ : Type) where
  | nothing
  | awaitsValue (key : κ)
  | holdsValue (key : κ) (value : String)

/-- What has been read of a level. -/
structure Reading (κ σ : Type) where
  settings : σ
  given : List κ := []
  pending : Pending κ := .nothing
  /-- The number of positions taken. -/
  positions : Nat := 0

/-- What reading a level comes to: its arguments, and a subcommand with what follows it. -/
abbrev Read (κ σ : Type) := Reading κ σ × Option (String × List String)

namespace Level

variable {κ σ : Type} [DecidableEq κ] (level : Level κ σ)

/-- Enters an argument; none may be given twice. -/
def store (r : Reading κ σ) (key : κ) (value : String) : Except UsageError (Reading κ σ) :=
  if key ∈ r.given then .error .argumentConflict
  else (level.enter key value r.settings).map fun settings =>
    { r with settings, given := key :: r.given }

def settle (r : Reading κ σ) : Except UsageError (Reading κ σ) :=
  match r.pending with
  | .nothing => .ok r
  | .awaitsValue _ => .error .invalidValue
  | .holdsValue key value => level.store { r with pending := .nothing } key value

def settleAndStore (r : Reading κ σ) (key : κ) (value : String) :
    Except UsageError (Reading κ σ) := do
  level.store (← level.settle r) key value

/-- Enters the pending argument and waits for the value of an option. -/
def await (r : Reading κ σ) (key : κ) : Except UsageError (Reading κ σ) :=
  (level.settle r).map fun r => { r with pending := .awaitsValue key }

/-- An option after two dashes, perhaps with its value behind an equals sign. -/
def readLong (r : Reading κ σ) (text : List Char) : Except UsageError (Reading κ σ) :=
  let name := text.takeWhile (· ≠ '=')
  let attached := match text.drop name.length with
    | _ :: value => some (String.ofList value)
    | [] => none
  match level.long? (String.ofList name) with
  | none => .error .unknownArgument
  | some key =>
    match level.takesValue key, attached with
    | true, some value => level.settleAndStore r key value
    | true, none => level.await r key
    | false, some _ => .error .tooManyValues
    | false, none => level.settleAndStore r key ""

/-- Options after one dash; the first that takes a value takes the rest for it. -/
def readShort (r : Reading κ σ) : List Char → Except UsageError (Reading κ σ)
  | [] => .ok r
  | c :: rest =>
    match level.short? c with
    | none => .error .unknownArgument
    | some key =>
      if level.takesValue key then
        match rest with
        | [] => level.await r key
        | '=' :: value => level.settleAndStore r key (String.ofList value)
        | value => level.settleAndStore r key (String.ofList value)
      else
        match level.settleAndStore r key "" with
        | .error e => .error e
        | .ok r => readShort r rest

/-- An argument that is no option. -/
def readPosition (r : Reading κ σ) (afterDashes : Bool) (arg : String) :
    Except UsageError (Reading κ σ) :=
  match level.position? r.positions with
  | none => .error (level.stray afterDashes arg)
  | some key => (level.settle r).map fun r =>
    { r with pending := .holdsValue key arg, positions := r.positions + 1 }

def readPositions (r : Reading κ σ) : List String → Except UsageError (Reading κ σ)
  | [] => .ok r
  | arg :: rest =>
    match level.readPosition r true arg with
    | .error e => .error e
    | .ok r => readPositions r rest

/-- Arguments up to a subcommand or the end. -/
def readArgs (r : Reading κ σ) : List String → Except UsageError (Read κ σ)
  | [] => .ok (r, none)
  | arg :: rest =>
    let awaiting := match r.pending with
      | .awaitsValue key => some key
      | _ => none
    if awaiting.isNone && level.isSubcommand arg then .ok (r, some (arg, rest))
    else
      match arg.toList, awaiting with
      | ['-', '-'], _ => (level.readPositions r rest).map (·, none)
      | '-' :: '-' :: text, _ =>
        match level.readLong r text with
        | .error e => .error e
        | .ok r => readArgs r rest
      | '-' :: c :: text, _ =>
        match level.readShort r (c :: text) with
        | .error e => .error e
        | .ok r => readArgs r rest
      | _, some key => readArgs { r with pending := .holdsValue key arg } rest
      | _, none =>
        match level.readPosition r false arg with
        | .error e => .error e
        | .ok r => readArgs r rest

end Level

end CommandLine

end EventMixing
