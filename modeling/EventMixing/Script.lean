import EventMixing.Failure
import EventMixing.Files.Store

/-!
# Scripts of effects

What a command does to the world is a script: text printed on either stream, files read
and written, folders looked through, the clock and the date asked for. A script says what
it does and not how, so it can be played on a `World` held in memory as well as run in
earnest.
-/

namespace EventMixing

inductive Stream where
  | output
  | errors
deriving DecidableEq, Repr

/-- A sequence of effects that ends with an `α`. -/
inductive Script (α : Type) where
  | done (a : α)
  | print (stream : Stream) (text : String) (next : Script α)
  | read (path : Path) (next : Except FileFault FileContent → Script α)
  | write (path : Path) (content : FileContent) (next : Except FileFault Unit → Script α)
  /-- What lies at a path. -/
  | inspect (path : Path) (next : Except FileFault FileKind → Script α)
  /-- The names in a folder, in alphabetical order. -/
  | list (folder : Path) (next : Except FileFault (List String) → Script α)
  /-- Nanoseconds since some fixed moment. -/
  | clock (next : Nat → Script α)
  /-- The present date and time as text. -/
  | today (next : String → Script α)

namespace Script

variable {α β : Type}

def bind (s : Script α) (f : α → Script β) : Script β :=
  match s with
  | done a => f a
  | print stream text next => print stream text (next.bind f)
  | read path next => read path fun r => (next r).bind f
  | write path content next => write path content fun r => (next r).bind f
  | inspect path next => inspect path fun r => (next r).bind f
  | list folder next => list folder fun r => (next r).bind f
  | clock next => clock fun t => (next t).bind f
  | today next => today fun t => (next t).bind f

instance : Monad Script where
  pure := done
  bind := bind

theorem bind_done (s : Script α) : s.bind done = s := by
  induction s with
  | done a => rfl
  | print stream text next ih => simp only [bind, ih]
  | read path next ih => simp only [bind, ih]
  | write path content next ih => simp only [bind, ih]
  | inspect path next ih => simp only [bind, ih]
  | list folder next ih => simp only [bind, ih]
  | clock next ih => simp only [bind, ih]
  | today next ih => simp only [bind, ih]

theorem bind_assoc {γ : Type} (s : Script α) (f : α → Script β) (g : β → Script γ) :
    (s.bind f).bind g = s.bind fun a => (f a).bind g := by
  induction s with
  | done a => rfl
  | print stream text next ih => simp only [bind, ih]
  | read path next ih => simp only [bind, ih]
  | write path content next ih => simp only [bind, ih]
  | inspect path next ih => simp only [bind, ih]
  | list folder next ih => simp only [bind, ih]
  | clock next ih => simp only [bind, ih]
  | today next ih => simp only [bind, ih]

instance : LawfulMonad Script :=
  LawfulMonad.mk' Script bind_done (fun _ _ => rfl) bind_assoc

def printed (text : String) : Script Unit := print .output text (done ())

def warned (text : String) : Script Unit := print .errors text (done ())

def readFile (path : Path) : Script (Except FileFault FileContent) := read path done

def writeFile (path : Path) (content : FileContent) : Script (Except FileFault Unit) :=
  write path content done

def inspectPath (path : Path) : Script (Except FileFault FileKind) := inspect path done

def listFolder (folder : Path) : Script (Except FileFault (List String)) := list folder done

def now : Script Nat := clock done

def timestamp : Script String := today done

end Script

/-- A script that may fail. -/
abbrev Command := ExceptT Failure Script

namespace Command

variable {α : Type}

def ofOutcome (o : Outcome α) : Command α := ExceptT.mk (.done o)

/-- A step done as part of something else. -/
def within (context : String) (c : Command α) : Command α :=
  ExceptT.adapt (·.within context) c

def printed (text : String) : Command Unit := ExceptT.lift (Script.printed text)

def warned (text : String) : Command Unit := ExceptT.lift (Script.warned text)

def now : Command Nat := ExceptT.lift Script.now

def timestamp : Command String := ExceptT.lift Script.timestamp

def readFile (path : Path) : Command FileContent :=
  ExceptT.mk (Script.readFile path >>= fun r => .done (Outcome.ofFile r))

def writeFile (path : Path) (content : FileContent) : Command Unit :=
  ExceptT.mk (Script.writeFile path content >>= fun r => .done (Outcome.ofFile r))

/-- What lies at a path, if there is anything. -/
def inspect? (path : Path) : Command (Option FileKind) :=
  ExceptT.lift (Except.toOption <$> Script.inspectPath path)

def listFolder (folder : Path) : Command (List String) :=
  ExceptT.mk (Script.listFolder folder >>= fun r => .done (Outcome.ofFile r))

end Command

/-! ## Playing a script in memory -/

/-- A world in memory: its files, what has been printed, and a clock that stands still. -/
structure World where
  files : FileStore
  output : String := ""
  errors : String := ""
  clock : Nat := 0
  timestamp : String := ""

def World.print (w : World) (stream : Stream) (text : String) : World :=
  match stream with
  | .output => { w with output := w.output ++ text }
  | .errors => { w with errors := w.errors ++ text }

/-- What a script ends with, and the world after it. -/
def Script.play {α : Type} (w : World) : Script α → α × World
  | done a => (a, w)
  | print stream text next => next.play (w.print stream text)
  | read path next => (next (w.files.read path)).play w
  | write path content next =>
    match w.files.write path content with
    | .ok files => (next (.ok ())).play { w with files }
    | .error fault => (next (.error fault)).play w
  | inspect path next => (next (w.files.inspect path)).play w
  | list folder next => (next (w.files.list folder)).play w
  | clock next => (next w.clock).play w
  | today next => (next w.timestamp).play w

/-- The second of two scripts is played in the world that the first one leaves. -/
theorem Script.play_bind {α β : Type} (w : World) (s : Script α) (f : α → Script β) :
    (s.bind f).play w = (f (s.play w).1).play (s.play w).2 := by
  induction s generalizing w with
  | done a => rfl
  | print stream text next ih => exact ih _
  | read path next ih => exact ih _ _
  | write path content next ih =>
    simp only [bind, play]
    split
    · exact ih _ _
    · exact ih _ _
  | inspect path next ih => exact ih _ _
  | list folder next ih => exact ih _ _
  | clock next ih => exact ih _ _
  | today next ih => exact ih _ _

end EventMixing
