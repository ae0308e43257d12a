import EventMixing.Run

/-!
# What scripts do to files

Played in a world, a script makes its attempts to write one after the other;
`attempts` lists them, and nothing but these changes a file (`files_play`). A script
without a write in any of its branches is `ReadsOnly`, which building scripts from
scripts keeps. Such a script leaves a world that differs in printed text only, and no
script can tell the two apart (`Alike.play`), so that of a command all but its writes
can be reckoned in the world it starts in: `Command.course_bind_of_readsOnly`.

A command may fail for many reasons. `Outcome.SparesDepth` leaves out one of them, that
pools are to keep nothing.
-/

namespace EventMixing

variable {α β : Type}

/-- An attempt to write a file, and what came of it. -/
structure Attempt where
  path : Path
  content : FileContent
  result : Except FileFault Unit

/-- The files after an attempt. -/
def Attempt.carryOut (files : FileStore) (a : Attempt) : FileStore :=
  match files.write a.path a.content with
  | .ok files => files
  | .error _ => files

namespace Script

/-! ## Attempts to write -/

/-- The attempts to write that a script makes in a world. -/
def attempts (w : World) : Script α → List Attempt
  | done _ => []
  | print stream text next => next.attempts (w.print stream text)
  | read path next => (next (w.files.read path)).attempts w
  | write path content next =>
    match w.files.write path content with
    | .ok files => ⟨path, content, .ok ()⟩ :: (next (.ok ())).attempts { w with files }
    | .error fault => ⟨path, content, .error fault⟩ :: (next (.error fault)).attempts w
  | inspect path next => (next (w.files.inspect path)).attempts w
  | list folder next => (next (w.files.list folder)).attempts w
  | clock next => (next w.clock).attempts w
  | today next => (next w.timestamp).attempts w

theorem attempts_bind (w : World) (s : Script α) (f : α → Script β) :
    (s.bind f).attempts w = s.attempts w ++ (f (s.play w).1).attempts (s.play w).2 := by
  induction s generalizing w with
  | done a => rfl
  | print stream text next ih => exact ih _
  | read path next ih => exact ih _ _
  | write path content next ih =>
      cases hwrite : w.files.write path content with
      | ok files => simp only [bind, attempts, play, hwrite, ih, List.cons_append]
      | error fault => simp only [bind, attempts, play, hwrite, ih, List.cons_append]
  | inspect path next ih => exact ih _ _
  | list folder next ih => exact ih _ _
  | clock next ih => exact ih _ _
  | today next ih => exact ih _ _

theorem files_play (w : World) (s : Script α) :
    (s.play w).2.files = (s.attempts w).foldl Attempt.carryOut w.files := by
  induction s generalizing w with
  | done a => rfl
  | print stream text next ih =>
      rw [play, ih, attempts]
      cases stream <;> rfl
  | read path next ih => exact ih _ _
  | write path content next ih =>
      cases hwrite : w.files.write path content with
      | ok files => simp only [attempts, play, hwrite, ih, List.foldl_cons, Attempt.carryOut]
      | error fault => simp only [attempts, play, hwrite, ih, List.foldl_cons, Attempt.carryOut]
  | inspect path next ih => exact ih _ _
  | list folder next ih => exact ih _ _
  | clock next ih => exact ih _ _
  | today next ih => exact ih _ _

/-! ## Scripts that only read -/

/-- No branch of the script writes. -/
inductive ReadsOnly : Script α → Prop
  | done (a : α) : ReadsOnly (done a)
  | print {stream text next} (h : ReadsOnly next) : ReadsOnly (print stream text next)
  | read {path next} (h : ∀ r, ReadsOnly (next r)) : ReadsOnly (read path next)
  | inspect {path next} (h : ∀ r, ReadsOnly (next r)) : ReadsOnly (inspect path next)
  | list {folder next} (h : ∀ r, ReadsOnly (next r)) : ReadsOnly (list folder next)
  | clock {next} (h : ∀ t, ReadsOnly (next t)) : ReadsOnly (clock next)
  | today {next} (h : ∀ t, ReadsOnly (next t)) : ReadsOnly (today next)

theorem ReadsOnly.bind {s : Script α} (h : s.ReadsOnly) {f : α → Script β}
    (hf : ∀ a, (f a).ReadsOnly) : (s.bind f).ReadsOnly := by
  induction h with
  | done a => exact hf a
  | print _ ih => exact .print ih
  | read _ ih => exact .read ih
  | inspect _ ih => exact .inspect ih
  | list _ ih => exact .list ih
  | clock _ ih => exact .clock ih
  | today _ ih => exact .today ih

end Script

/-- Two worlds that a script cannot tell apart: they differ in printed text only. -/
structure World.Alike (w w' : World) : Prop where
  files_eq : w.files = w'.files
  clock_eq : w.clock = w'.clock
  timestamp_eq : w.timestamp = w'.timestamp

namespace World.Alike

variable {w w' : World}

theorem refl (w : World) : w.Alike w := ⟨rfl, rfl, rfl⟩

theorem symm (h : w.Alike w') : w'.Alike w :=
  ⟨h.files_eq.symm, h.clock_eq.symm, h.timestamp_eq.symm⟩

theorem trans {w'' : World} (h : w.Alike w') (h' : w'.Alike w'') : w.Alike w'' :=
  ⟨h.files_eq.trans h'.files_eq, h.clock_eq.trans h'.clock_eq,
    h.timestamp_eq.trans h'.timestamp_eq⟩

theorem print (w : World) (stream : Stream) (text : String) : (w.print stream text).Alike w := by
  cases stream <;> exact ⟨rfl, rfl, rfl⟩

/-- Scripts end with the same in worlds that are alike, make the same attempts to write and
leave worlds that are alike. -/
theorem play (h : w.Alike w') (s : Script α) :
    (s.play w).1 = (s.play w').1 ∧ s.attempts w = s.attempts w' ∧
      (s.play w).2.Alike (s.play w').2 := by
  induction s generalizing w w' with
  | done a => exact ⟨rfl, rfl, h⟩
  | print stream text next ih => exact ih (((print w _ _).trans h).trans (print w' _ _).symm)
  | read path next ih =>
      simp only [Script.play, Script.attempts, h.files_eq]
      exact ih _ h
  | write path content next ih =>
      cases hwrite : w'.files.write path content with
      | ok files =>
          have halike : World.Alike { w with files } { w' with files } :=
            ⟨rfl, h.clock_eq, h.timestamp_eq⟩
          obtain ⟨hend, hattempts, hafter⟩ := ih (.ok ()) halike
          simp only [Script.play, Script.attempts, h.files_eq, hwrite]
          exact ⟨hend, by rw [hattempts], hafter⟩
      | error fault =>
          obtain ⟨hend, hattempts, hafter⟩ := ih (.error fault) h
          simp only [Script.play, Script.attempts, h.files_eq, hwrite]
          exact ⟨hend, by rw [hattempts], hafter⟩
  | inspect path next ih =>
      simp only [Script.play, Script.attempts, h.files_eq]
      exact ih _ h
  | list folder next ih =>
      simp only [Script.play, Script.attempts, h.files_eq]
      exact ih _ h
  | clock next ih =>
      simp only [Script.play, Script.attempts, h.clock_eq]
      exact ih _ h
  | today next ih =>
      simp only [Script.play, Script.attempts, h.timestamp_eq]
      exact ih _ h

end World.Alike

namespace Script.ReadsOnly

theorem attempts_eq_nil {s : Script α} (h : s.ReadsOnly) (w : World) : s.attempts w = [] := by
  induction h generalizing w with
  | done a => rfl
  | print _ ih => exact ih _
  | read _ ih => exact ih _ _
  | inspect _ ih => exact ih _ _
  | list _ ih => exact ih _ _
  | clock _ ih => exact ih _ _
  | today _ ih => exact ih _ _

theorem play_alike {s : Script α} (h : s.ReadsOnly) (w : World) : (s.play w).2.Alike w := by
  induction h generalizing w with
  | done a => exact .refl w
  | print _ ih => exact (ih _).trans (.print w _ _)
  | read _ ih => exact ih _ _
  | inspect _ ih => exact ih _ _
  | list _ ih => exact ih _ _
  | clock _ ih => exact ih _ _
  | today _ ih => exact ih _ _

end Script.ReadsOnly

/-! ## Commands -/

namespace Command

/-- What a command comes to in a world. -/
def outcome (w : World) (x : Command α) : Outcome α := (x.run.play w).1

/-- The world that a command leaves. -/
def after (w : World) (x : Command α) : World := (x.run.play w).2

/-- The attempts to write that a command makes in a world. -/
def attempts (w : World) (x : Command α) : List Attempt := x.run.attempts w

/-- What a command comes to, with its attempts to write. -/
def course (w : World) (x : Command α) : Outcome α × List Attempt := (outcome w x, attempts w x)

theorem course_of_outcome {w : World} {x : Command α} {o : Outcome α} (h : outcome w x = o) :
    course w x = (o, attempts w x) := by
  rw [course, h]

theorem run_bind (x : Command α) (f : α → Command β) :
    (x >>= f).run = x.run.bind fun
      | .ok a => (f a).run
      | .error e => .done (.error e) := by
  refine congrArg (Script.bind x.run) (funext fun o => ?_)
  cases o <;> rfl

theorem course_bind (w : World) (x : Command α) (f : α → Command β) :
    course w (x >>= f) = match outcome w x with
      | .ok a => (outcome (after w x) (f a), attempts w x ++ attempts (after w x) (f a))
      | .error e => (.error e, attempts w x) := by
  unfold course outcome attempts after
  rw [run_bind, Script.play_bind, Script.attempts_bind]
  cases (x.run.play w).1 with
  | ok a => rfl
  | error e => exact congrArg (Prod.mk _) (List.append_nil _)

theorem course_bind_of_ok {w : World} {x : Command α} {a : α} {log : List Attempt}
    (h : course w x = (.ok a, log)) (f : α → Command β) :
    course w (x >>= f) = (outcome (after w x) (f a), log ++ attempts (after w x) (f a)) := by
  obtain ⟨houtcome, rfl⟩ := Prod.mk.inj h
  rw [course_bind, houtcome]

theorem course_bind_of_error {w : World} {x : Command α} {e : Failure} {log : List Attempt}
    (h : course w x = (.error e, log)) (f : α → Command β) :
    course w (x >>= f) = (.error e, log) := by
  obtain ⟨houtcome, rfl⟩ := Prod.mk.inj h
  rw [course_bind, houtcome]

theorem outcome_bind_eq_error {w : World} {x : Command α} {f : α → Command β} {e : Failure}
    (h : outcome w (x >>= f) = .error e) : outcome w x = .error e ∨
      ∃ a, outcome w x = .ok a ∧ outcome (after w x) (f a) = .error e := by
  have hbind := (congrArg Prod.fst (course_bind w x f)).symm.trans h
  cases hx : outcome w x with
  | error e' =>
      rw [hx] at hbind
      exact Or.inl (congrArg _ (Except.error.inj hbind))
  | ok a =>
      rw [hx] at hbind
      exact Or.inr ⟨a, rfl, hbind⟩

theorem after_bind (w : World) (x : Command α) (f : α → Command β) :
    after w (x >>= f) = match outcome w x with
      | .ok a => after (after w x) (f a)
      | .error _ => after w x := by
  unfold outcome after
  rw [run_bind, Script.play_bind]
  cases (x.run.play w).1 <;> rfl

theorem after_adapt (w : World) (f : Failure → Failure) (x : Command α) :
    after w (ExceptT.adapt f x : Command α) = after w x := by
  unfold after
  have hrun : (ExceptT.adapt f x).run = x.run.bind fun o => .done (o.mapError f) := rfl
  rw [hrun, Script.play_bind]
  rfl

theorem outcome_ofOutcome (w : World) (o : Outcome α) : outcome w (ofOutcome o) = o := rfl

theorem course_adapt (w : World) (f : Failure → Failure) (x : Command α) :
    course w (ExceptT.adapt f x : Command α) = ((outcome w x).mapError f, attempts w x) := by
  unfold course outcome attempts
  have hrun : (ExceptT.adapt f x).run = x.run.bind fun o => .done (o.mapError f) := rfl
  rw [hrun, Script.play_bind, Script.attempts_bind]
  exact congrArg (Prod.mk _) (List.append_nil _)

theorem outcome_adapt (w : World) (f : Failure → Failure) (x : Command α) :
    outcome w (ExceptT.adapt f x : Command α) = (outcome w x).mapError f :=
  congrArg Prod.fst (course_adapt w f x)

/-- A script with an outcome of its own is carried out, and that it failed is no failure. -/
theorem course_lift_run (w : World) (x : Command α) :
    course w (ExceptT.lift x.run) = (.ok (outcome w x), attempts w x) := by
  unfold course outcome attempts
  have hrun : (ExceptT.lift x.run : Command (Outcome α)).run
      = x.run.bind fun o => .done (.ok o) := rfl
  rw [hrun, Script.play_bind, Script.attempts_bind]
  exact congrArg (Prod.mk _) (List.append_nil _)

theorem course_writeFile (w : World) (path : Path) (content : FileContent) :
    course w (writeFile path content) = (.ok (), [⟨path, content, .ok ()⟩]) ∨
      ∃ fault, course w (writeFile path content) =
        (.error ⟨[], .file fault⟩, [⟨path, content, .error fault⟩]) := by
  unfold course outcome attempts
  have hrun : (writeFile path content).run
      = .write path content fun r => .done (Outcome.ofFile r) := rfl
  rw [hrun, Script.play, Script.attempts]
  cases w.files.write path content with
  | ok files => exact Or.inl rfl
  | error fault => exact Or.inr ⟨fault, rfl⟩

theorem outcome_writeFile_of_ok {w : World} {path : Path} {content : FileContent}
    {files : FileStore} (h : w.files.write path content = .ok files) :
    outcome w (writeFile path content) = .ok () := by
  unfold outcome
  have hrun : (writeFile path content).run
      = .write path content fun r => .done (Outcome.ofFile r) := rfl
  rw [hrun, Script.play, h]
  rfl

theorem after_writeFile_of_ok {w : World} {path : Path} {content : FileContent}
    {files : FileStore} (h : w.files.write path content = .ok files) :
    after w (writeFile path content) = { w with files } := by
  unfold after
  have hrun : (writeFile path content).run
      = .write path content fun r => .done (Outcome.ofFile r) := rfl
  rw [hrun, Script.play, h]
  rfl

theorem course_alike {w w' : World} (h : w.Alike w') (x : Command α) :
    course w x = course w' x := by
  obtain ⟨hend, hattempts, -⟩ := h.play x.run
  exact Prod.ext hend hattempts

/-! ## Commands that only read -/

/-- No branch of the command writes. -/
def ReadsOnly (x : Command α) : Prop := x.run.ReadsOnly

namespace ReadsOnly

theorem ofOutcome (o : Outcome α) : ReadsOnly (Command.ofOutcome o) := .done o

theorem pure (a : α) : ReadsOnly (Pure.pure a : Command α) := ofOutcome (.ok a)

theorem printed (text : String) : ReadsOnly (Command.printed text) := .print (.done _)

theorem warned (text : String) : ReadsOnly (Command.warned text) := .print (.done _)

theorem now : ReadsOnly Command.now := .clock fun _ => .done _

theorem timestamp : ReadsOnly Command.timestamp := .today fun _ => .done _

theorem readFile (path : Path) : ReadsOnly (Command.readFile path) := .read fun _ => .done _

theorem inspect? (path : Path) : ReadsOnly (Command.inspect? path) := .inspect fun _ => .done _

theorem listFolder (folder : Path) : ReadsOnly (Command.listFolder folder) :=
  .list fun _ => .done _

theorem bind {x : Command α} (h : ReadsOnly x) {f : α → Command β} (hf : ∀ a, ReadsOnly (f a)) :
    ReadsOnly (x >>= f) := by
  unfold ReadsOnly
  rw [run_bind]
  refine Script.ReadsOnly.bind h fun o => ?_
  cases o with
  | ok a => exact hf a
  | error e => exact .done _

theorem adapt {x : Command α} (h : ReadsOnly x) (f : Failure → Failure) :
    ReadsOnly (ExceptT.adapt f x : Command α) :=
  Script.ReadsOnly.bind h fun _ => .done _

theorem within {x : Command α} (h : ReadsOnly x) (context : String) :
    ReadsOnly (Command.within context x) := h.adapt _

theorem mapM {f : α → Command β} (hf : ∀ a, ReadsOnly (f a)) (xs : List α) :
    ReadsOnly (xs.mapM f) := by
  induction xs with
  | nil => exact .pure []
  | cons x xs ih =>
      rw [List.mapM_cons]
      exact .bind (hf x) fun _ => .bind ih fun _ => .pure _

theorem attempts_eq_nil {x : Command α} (h : ReadsOnly x) (w : World) : attempts w x = [] :=
  Script.ReadsOnly.attempts_eq_nil h w

end ReadsOnly

/-- What follows a command that only reads can be reckoned in the same world. -/
theorem course_bind_of_readsOnly {x : Command α} (h : ReadsOnly x) (w : World)
    (f : α → Command β) :
    course w (x >>= f) = match outcome w x with
      | .ok a => course w (f a)
      | .error e => (.error e, []) := by
  have halike : (after w x).Alike w := Script.ReadsOnly.play_alike h w
  rw [course_bind, h.attempts_eq_nil]
  cases outcome w x with
  | ok a => exact course_alike halike (f a)
  | error e => rfl

theorem outcome_bind_of_readsOnly {x : Command α} (h : ReadsOnly x) (w : World)
    (f : α → Command β) :
    outcome w (x >>= f) = match outcome w x with
      | .ok a => outcome w (f a)
      | .error e => .error e := by
  have hcourse := congrArg Prod.fst (course_bind_of_readsOnly h w f)
  cases hx : outcome w x <;> rw [hx] at hcourse <;> exact hcourse

end Command

/-! ## Pools that keep nothing -/

/-- If this is a failure, it is not that pools keep nothing. -/
def Outcome.SparesDepth (o : Outcome α) : Prop :=
  ∀ f, o = .error f → f.cause ≠ .mixing .zeroPoolDepth

namespace Outcome.SparesDepth

theorem ok (a : α) : SparesDepth (.ok a) := nofun

theorem error {f : Failure} (h : f.cause ≠ .mixing .zeroPoolDepth) :
    SparesDepth (.error f : Outcome α) := by
  rintro f' hf'
  obtain rfl := Except.error.inj hf'
  exact h

theorem mapError {o : Outcome α} {g : Failure → Failure}
    (h : ∀ f, o = .error f → (g f).cause ≠ .mixing .zeroPoolDepth) :
    SparesDepth (o.mapError g) := by
  cases o with
  | ok a => exact .ok a
  | error f => exact .error (h f rfl)

theorem within {o : Outcome α} (h : o.SparesDepth) (context : String) :
    SparesDepth (o.within context) := .mapError h

theorem bind {o : Outcome α} (h : o.SparesDepth) {f : α → Outcome β}
    (hf : ∀ a, (f a).SparesDepth) : SparesDepth (o.bind f) := by
  cases o with
  | ok a => exact hf a
  | error e => exact .error (h e rfl)

end Outcome.SparesDepth

end EventMixing
