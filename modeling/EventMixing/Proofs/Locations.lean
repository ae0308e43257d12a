import EventMixing.Files.Store
import EventMixing.Proofs.PathParts

/-!
# Files beside each other

A path to a file is resolved in two stages: its folder's steps are descended into, and its
name is looked up in the folder reached. A file that is written makes no more folders and
changes what no other name stands for, so paths with one folder and two names lead to two
files: `FileStore.read_of_write_beside` says that writing one leaves the other as it reads.
-/

namespace EventMixing.FileStore

open EventMixing.Path (isStep)

variable {s s' : FileStore} {slash : Bool} {folder reached key ns names : List String}
  {name other : String} {content : FileContent}

/-! ## Descending into folders -/

/-- The folder that steps through folders lead to. -/
def descend? (s : FileStore) (folder : List String) : List String → Option (List String)
  | [] => some folder
  | name :: rest =>
    if name = ".." then s.descend? (up folder) rest
    else if Path.maxNameBytes < name.utf8ByteSize then none
    else if s.isFolder (folder ++ [name]) then s.descend? (folder ++ [name]) rest
    else none

/-- More folders are no hindrance. -/
theorem descend?_mono (hfolders : ∀ key, s.isFolder key = true → s'.isFolder key = true)
    (h : s.descend? folder ns = some reached) : s'.descend? folder ns = some reached := by
  induction ns generalizing folder with
  | nil => exact h
  | cons name rest ih =>
      rw [descend?] at h ⊢
      split at h
      · rw [if_pos ‹_›]
        exact ih h
      · split at h
        · cases h
        · split at h
          · rw [if_neg ‹_›, if_neg ‹_›, if_pos (hfolders _ ‹_›)]
            exact ih h
          · cases h

theorem isStep_iff : isStep name = true ↔ ¬ (name = "" ∨ name = ".") := by
  simp [isStep]

theorem isStep_of_isName {name : List Char} (h : Path.IsName name) :
    isStep (String.ofList name) = true ∧ String.ofList name ≠ ".." := by
  simp [isStep, ← String.toList_inj, h.ne_nil, h.ne_dot, h.ne_dots]

theorem walk_of_no_steps (h : names.filter isStep = []) (folder : List String) :
    s.walk slash folder names = .ok (.folder folder) := by
  induction names with
  | nil => rfl
  | cons name rest ih =>
      obtain ⟨hname, hrest⟩ := List.forall_mem_cons.mp (List.filter_eq_nil_iff.mp h)
      rw [walk, if_pos (not_not.mp (mt isStep_iff.mpr hname))]
      exact ih (List.filter_eq_nil_iff.mpr hrest)

/-- A walk comes to the last step in the folder that those before it lead to, or nowhere. What
comes behind the last step is no step. -/
theorem exists_walk_eq (slash : Bool) (hnames : names.filter isStep = ns ++ [name]) :
    ∃ last, last.filter isStep = [] ∧ ∀ (s : FileStore) (folder : List String),
      (∀ reached, s.descend? folder ns = some reached →
        s.walk slash folder names = s.walk slash reached (name :: last)) ∧
      (s.descend? folder ns = none → ∃ fault, s.walk slash folder names = .error fault) := by
  induction names generalizing ns with
  | nil => simp at hnames
  | cons c rest ih =>
      by_cases hstep : isStep c = true
      · have hc := isStep_iff.mp hstep
        rw [List.filter_cons_of_pos hstep] at hnames
        cases ns with
        | nil =>
            obtain ⟨rfl, hrest⟩ := List.cons.inj hnames
            refine ⟨rest, hrest, fun s folder => ⟨fun reached h => ?_, nofun⟩⟩
            rw [← Option.some.inj h]
        | cons n ns =>
            obtain ⟨rfl, hrest⟩ := List.cons.inj hnames
            obtain ⟨last, hlast, hwalk⟩ := ih hrest
            refine ⟨last, hlast, fun s folder => ?_⟩
            rw [walk, if_neg hc, descend?]
            split
            · exact hwalk s _
            · split
              · exact ⟨nofun, fun _ => ⟨_, rfl⟩⟩
              · dsimp only
                split
                · exact hwalk s _
                · -- neither a file nor nothing is a folder, and there are steps to go
                  refine ⟨nofun, fun _ => ?_⟩
                  have hmore : (!rest.isEmpty) = true := by
                    cases rest with
                    | nil => simp at hrest
                    | cons => rfl
                  split
                  · exact ⟨_, if_pos hmore⟩
                  · exact ⟨_, if_pos hmore⟩
      · rw [List.filter_cons_of_neg hstep] at hnames
        have hc := not_not.mp (mt isStep_iff.mpr hstep)
        obtain ⟨last, hlast, hwalk⟩ := ih hnames
        refine ⟨last, hlast, fun s folder => ?_⟩
        rw [walk, if_pos hc]
        exact hwalk s folder

/-- Where a path leads depends on its name only, once its folder has been reached. -/
theorem walk_congr (hnames : names.filter isStep = ns ++ [name])
    (h : s.descend? folder ns = some reached) (h' : s'.descend? folder ns = some reached)
    (hfolder : s'.isFolder (reached ++ [name]) = s.isFolder (reached ++ [name]))
    (hfind : s'.find? (reached ++ [name]) = s.find? (reached ++ [name])) :
    s'.walk slash folder names = s.walk slash folder names := by
  obtain ⟨last, hlast, hwalk⟩ := exists_walk_eq slash hnames
  rw [(hwalk s folder).1 reached h, (hwalk s' folder).1 reached h', walk, walk]
  dsimp only
  rw [hfolder, hfind]
  simp only [walk_of_no_steps hlast]

/-- A path to a file, or to nothing yet, leads to its name in the folder it descends into. -/
theorem descend?_of_walk (hnames : names.filter isStep = ns ++ [name]) (hstep : isStep name)
    (hname : name ≠ "..")
    (h : s.walk slash folder names = .ok (.vacant key) ∨
      ∃ content, s.walk slash folder names = .ok (.file key content)) :
    ∃ reached, s.descend? folder ns = some reached ∧ key = reached ++ [name] := by
  obtain ⟨last, hlast, hwalk⟩ := exists_walk_eq slash hnames
  cases hreached : s.descend? folder ns with
  | none =>
      obtain ⟨fault, hfault⟩ := (hwalk s folder).2 hreached
      rw [hfault] at h
      simp at h
  | some reached =>
      refine ⟨reached, rfl, ?_⟩
      rw [(hwalk s folder).1 reached hreached, walk, if_neg (isStep_iff.mp hstep), if_neg hname]
        at h
      dsimp only at h
      simp only [walk_of_no_steps hlast] at h
      split at h
      · simp at h
      · split at h
        · simp at h
        · split at h
          all_goals
            split at h
            · simp at h
            · split at h
              · simp at h
              · simpa [eq_comm] using h

/-! ## Putting a file into a folder -/

theorem find?_put_of_ne {key' : List String} (h : key' ≠ key) :
    (s.put key content).find? key' = s.find? key' := by
  have hkey : (key == key') = false := beq_eq_false_iff_ne.mpr h.symm
  unfold find? put
  split
  · dsimp only
    generalize s.files = files
    induction files with
    | nil => rfl
    | cons file rest ih =>
        rw [List.map_cons, List.find?_cons, List.find?_cons]
        by_cases hfile : file.1 = key
        · rw [if_pos (beq_iff_eq.mpr hfile), hkey, hfile, hkey]
          exact ih
        · rw [if_neg (by simpa using hfile)]
          cases hfound : file.1 == key' with
          | true => rfl
          | false => exact ih
  · rw [List.find?_append, List.find?_singleton, hkey]
    simp

/-- Whether a file lies in a folder or deeper down. -/
def liesBelow (folder file : List String) : Bool :=
  folder.isPrefixOf file && folder.length < file.length

theorem isFolder_eq (s : FileStore) (key : List String) : s.isFolder key =
    (isAround key || s.folders.contains key || s.files.any fun file => liesBelow key file.1) :=
  rfl

/-- Putting a file makes no folders but those on the way to it. -/
theorem isFolder_put (s : FileStore) (key key' : List String) (content : FileContent) :
    (s.put key content).isFolder key' = (s.isFolder key' || liesBelow key' key) := by
  rw [isFolder_eq, isFolder_eq]
  unfold put
  split
  · rename_i hany
    obtain ⟨file, hfile, hkey⟩ := List.any_eq_true.mp hany
    have hkeeps : ((s.files.map fun file => if file.1 == key then (key, content) else file).any
        fun file => liesBelow key' file.1) = s.files.any fun file => liesBelow key' file.1 := by
      rw [List.any_map]
      congr 1
      funext file
      by_cases h : file.1 = key <;> simp [h]
    have habsorbs : ((s.files.any fun file => liesBelow key' file.1) || liesBelow key' key) =
        s.files.any fun file => liesBelow key' file.1 := by
      cases hbelow : liesBelow key' key with
      | false => exact Bool.or_false _
      | true =>
          rw [← beq_iff_eq.mp hkey] at hbelow
          rw [Bool.or_true, List.any_eq_true.mpr ⟨file, hfile, hbelow⟩]
    rw [hkeeps, Bool.or_assoc _ (s.files.any _)]
    exact congrArg _ habsorbs.symm
  · rw [List.any_append, Bool.or_assoc _ (s.files.any _)]
    simp

/-! ## Resolving paths -/

/-- Where the components of a path start. -/
def start (p : Path) : List String := if p.components.head? = some "" then ["/"] else []

/-- The components of a path without the empty ones that slashes at its end leave. -/
def route (p : Path) : List String := (p.components.reverse.dropWhile (· = "")).reverse

theorem filter_route (p : Path) : (route p).filter isStep = p.steps := by
  have hsplit : p.components =
      route p ++ (p.components.reverse.takeWhile (· = "")).reverse := by
    rw [route, ← List.reverse_append, List.takeWhile_append_dropWhile, List.reverse_reverse]
  have hempty : (p.components.reverse.takeWhile (· = "")).reverse.filter isStep = [] := by
    refine List.filter_eq_nil_iff.mpr fun name hname => ?_
    have := List.mem_takeWhile_imp (List.mem_reverse.mp hname)
    simp only [decide_eq_true_eq] at this
    simp [this, isStep]
  rw [Path.steps, hsplit, List.filter_append, hempty, List.append_nil]

/-- A path with steps leads where a walk along them leads. -/
theorem resolve_eq (s : FileStore) {p : Path} (hfault : p.fault? = none) (hsteps : p.steps ≠ []) :
    s.resolve p = s.walk (decide ((route p).length < p.components.length)) (start p) (route p) := by
  unfold resolve
  rw [hfault]
  dsimp only
  split
  · rename_i hcomponents
    rw [Path.steps, hcomponents] at hsteps
    exact absurd rfl hsteps
  · rename_i rest _ hcomponents
    rw [start, if_pos (by rw [hcomponents]; rfl)]
    rfl
  · rename_i hnot
    have hhead : p.components.head? ≠ some "" := by
      intro hhead
      obtain ⟨rest, hrest⟩ := List.head?_eq_some_iff.mp hhead
      exact hnot rest hrest
    rw [start, if_neg hhead]
    rfl

/-- A name by itself is looked up in the working folder. -/
theorem resolve_of_isName (s : FileStore) {p : Path} (hname : Path.IsName p.text.toList)
    (hnul : '\x00' ∉ p.text.toList) (hlength : p.text.utf8ByteSize ≤ Path.maxBytes) :
    s.resolve p = s.walk false [] [p.text] := by
  have hne : p.text ≠ "" := by simpa using hname.ne_nil
  unfold resolve
  rw [Path.fault?_eq_none hnul hlength, Path.components_of_slash_notMem hname.slash_notMem]
  simp [hne]

/-- Where a name by itself stands for nothing yet, a file can be written. -/
theorem write_of_isName (s : FileStore) {p : Path} (hname : Path.IsName p.text.toList)
    (hnul : '\x00' ∉ p.text.toList) (hlength : p.text.utf8ByteSize ≤ Path.maxBytes)
    {key : List String} (hvacant : s.walk false [] [p.text] = .ok (.vacant key))
    (content : FileContent) : s.write p content = .ok (s.put key content) := by
  rw [write, resolve_of_isName s hname hnul hlength, hvacant]

theorem read_eq_of_resolve {p : Path} (h : s'.resolve p = s.resolve p) : s'.read p = s.read p := by
  rw [read, read, h]

theorem exists_put_of_write {q : Path} (h : s.write q content = .ok s') :
    ∃ key, (s.resolve q = .ok (.vacant key) ∨ ∃ old, s.resolve q = .ok (.file key old)) ∧
      s' = s.put key content := by
  unfold write at h
  split at h
  · cases h
  · cases h
  · cases h
  · exact ⟨_, Or.inl ‹_›, (Except.ok.inj h).symm⟩
  · exact ⟨_, Or.inr ⟨_, ‹_›⟩, (Except.ok.inj h).symm⟩

/-- A file is written into the folder that its path descends into. -/
theorem exists_reached_of_write {q : Path} {lead body qName : List Char}
    (hq : q.Parts lead body qName) (h : s.write q content = .ok s') :
    ∃ reached, s.descend? (start q) (Path.stepsOf body) = some reached ∧
      s' = s.put (reached ++ [String.ofList qName]) content := by
  obtain ⟨key, hkey, rfl⟩ := exists_put_of_write h
  have hfault : q.fault? = none := by
    cases hfault : q.fault? with
    | none => rfl
    | some fault =>
        unfold resolve at hkey
        rw [hfault] at hkey
        simp at hkey
  have hsteps : q.steps ≠ [] := by simp [hq.steps_eq]
  rw [resolve_eq s hfault hsteps] at hkey
  obtain ⟨hstep, hup⟩ := isStep_of_isName hq.isName
  obtain ⟨reached, hreached, rfl⟩ :=
    descend?_of_walk ((filter_route q).trans hq.steps_eq) hstep hup hkey
  exact ⟨reached, hreached, rfl⟩

/-- Of two files in one folder, writing one leaves the other as it reads. -/
theorem read_of_write_beside {p q : Path} {pName qName : String}
    (hp : p.fileName? = some pName) (hq : q.fileName? = some qName)
    (hparent : p.parent? = q.parent?) (hne : pName ≠ qName)
    (h : s.write q content = .ok s') : s'.read p = s.read p := by
  obtain ⟨lead, body, hpParts, hqParts⟩ := Path.exists_parts_of_parent? hp hq hparent
  obtain ⟨reached, hreached, rfl⟩ := exists_reached_of_write hqParts h
  have hstart : start q = start p := by
    simp only [start, hpParts.absolute_iff, hqParts.absolute_iff]
  rw [hstart] at hreached
  refine read_eq_of_resolve ?_
  cases hfault : p.fault? with
  | some fault => rw [resolve, resolve, hfault]
  | none =>
      have hsteps : p.steps ≠ [] := by simp [hpParts.steps_eq]
      rw [resolve_eq _ hfault hsteps, resolve_eq _ hfault hsteps]
      refine walk_congr ((filter_route p).trans hpParts.steps_eq) hreached
        (descend?_mono (fun key hkey => ?_) hreached) ?_ (find?_put_of_ne ?_)
      · rw [isFolder_put, hkey, Bool.true_or]
      · rw [isFolder_put]
        simp [liesBelow]
      · simpa using hne

end EventMixing.FileStore
