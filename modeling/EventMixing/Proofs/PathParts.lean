import Mathlib.Data.List.Infix
import Mathlib.Data.List.TakeWhile
import EventMixing.Proofs.Components

/-!
# The parts of a path

A path that names a file is a lead, the components of its folder, a slash, a name, and
perhaps some slashes and dots that stand for nothing. Taking a path apart trims the folder, so
that a name put behind it is found again: `exists_folder` says that the folder of a file
joined with another name is the same folder and that name.

A name with an extension is a stem, the last dot, and what follows it (`splitName_eq_iff`).
-/

namespace EventMixing.Path

variable {cs lead body name : List Char}

/-! ## The lead -/

/-- The characters in front of the components, and how these may then start. -/
inductive Leads : List Char → List Char → Prop
  | root (body : List Char) : Leads ['/'] body
  | here : Leads ['.'] []
  | fromHere (rest : List Char) : Leads ['.'] ('/' :: rest)
  | bare {body : List Char} (slash : ∀ rest, body ≠ '/' :: rest) (dot : body ≠ ['.'])
      (dotSlash : ∀ rest, body ≠ '.' :: '/' :: rest) : Leads [] body

theorem splitLead_eq_iff : splitLead cs = (lead, body) ↔ cs = lead ++ body ∧ Leads lead body := by
  constructor
  · intro h
    unfold splitLead at h
    split at h
    · obtain ⟨rfl, rfl⟩ := Prod.mk.injEq .. |>.mp h
      exact ⟨rfl, .root _⟩
    · obtain ⟨rfl, rfl⟩ := Prod.mk.injEq .. |>.mp h
      exact ⟨rfl, .here⟩
    · obtain ⟨rfl, rfl⟩ := Prod.mk.injEq .. |>.mp h
      exact ⟨rfl, .fromHere _⟩
    · rename_i hslash hdot hdotSlash
      obtain ⟨rfl, rfl⟩ := Prod.mk.injEq .. |>.mp h
      exact ⟨rfl, .bare hslash hdot hdotSlash⟩
  · rintro ⟨rfl, h⟩
    cases h with
    | root => rfl
    | here => rfl
    | fromHere => rfl
    | bare hslash hdot hdotSlash =>
        unfold splitLead
        split
        · exact absurd ‹_› (hslash _)
        · exact absurd ‹_› hdot
        · exact absurd ‹_› (hdotSlash _)
        · rfl

/-- The first of the components stand behind the same lead, unless only a dot is left. -/
theorem Leads.of_append {rest : List Char} (h : Leads lead (body ++ rest)) (hdot : body ≠ ['.']) :
    Leads lead body := by
  cases body with
  | nil =>
      generalize hall : [] ++ rest = all at h
      cases h with
      | root => exact .root []
      | here => exact .here
      | fromHere => exact .here
      | bare => exact .bare (by simp) hdot (by simp)
  | cons c body =>
      generalize hall : c :: body ++ rest = all at h
      cases h with
      | root => exact .root _
      | here => cases hall
      | fromHere =>
          obtain ⟨rfl, -⟩ := List.cons.inj hall
          exact .fromHere body
      | bare hslash _ hdotSlash =>
          refine .bare (fun t ht => ?_) hdot (fun t ht => ?_)
          · exact hslash (t ++ rest) (by rw [← hall, ht]; rfl)
          · exact hdotSlash (t ++ rest) (by rw [← hall, ht]; rfl)

/-- More may follow components behind a slash. -/
theorem Leads.append_slash (h : Leads lead body) (hne : body ≠ [] ∨ lead = ['.'])
    (rest : List Char) : Leads lead (body ++ '/' :: rest) := by
  cases h with
  | root => exact .root _
  | here => exact .fromHere rest
  | fromHere more => exact .fromHere (more ++ '/' :: rest)
  | bare hslash hdot hdotSlash =>
      obtain ⟨c, cs, rfl⟩ := List.exists_cons_of_ne_nil (hne.resolve_right (by simp))
      refine .bare (fun t ht => ?_) (by simp) (fun t ht => ?_)
      · exact hslash cs (by rw [(List.cons.inj ht).1])
      · obtain ⟨rfl, hcs⟩ := List.cons.inj ht
        cases cs with
        | nil => exact hdot rfl
        | cons d cs => exact hdotSlash cs (by rw [(List.cons.inj hcs).1])

/-- The lead leads nowhere. -/
theorem Leads.stepsOf_append (h : Leads lead body) : stepsOf (lead ++ body) = stepsOf body := by
  cases h with
  | root => simpa using stepsOf_append_slash [] body
  | here => simp
  | fromHere rest =>
      calc stepsOf (['.'] ++ '/' :: rest) = stepsOf ['.'] ++ stepsOf rest :=
            stepsOf_append_slash _ _
        _ = stepsOf [] ++ stepsOf rest := by rw [stepsOf_dot, stepsOf_nil]
        _ = stepsOf ('/' :: rest) := (stepsOf_append_slash [] rest).symm
  | bare => rfl

/-! ## The end -/

/-- Trimming cuts off an end. -/
theorem trimEnd_suffix (cs : List Char) : trimEnd cs <:+ cs := by
  fun_induction trimEnd cs with
  | case1 => exact List.suffix_refl _
  | case2 rest ih => exact ih.trans (List.suffix_cons _ _)
  | case3 => exact List.nil_suffix
  | case4 rest ih => exact (ih.trans (List.suffix_cons _ _)).trans (List.suffix_cons _ _)
  | case5 => exact List.suffix_refl _

/-- What has been trimmed stays as it is. -/
theorem trimEnd_trimEnd (cs : List Char) : trimEnd (trimEnd cs) = trimEnd cs := by
  fun_induction trimEnd cs with
  | case1 => rfl
  | case2 rest ih => exact ih
  | case3 => rfl
  | case4 rest ih => exact ih
  | case5 cs hnil hslash hdot hdotSlash => exact trimEnd.eq_5 cs hnil hslash hdot hdotSlash

/-- What is trimmed leads nowhere. -/
theorem stepsOf_trimEnd (cs : List Char) : stepsOf (trimEnd cs).reverse = stepsOf cs.reverse := by
  fun_induction trimEnd cs with
  | case1 => rfl
  | case2 rest ih => rw [ih, List.reverse_cons, stepsOf_append_slash, stepsOf_nil, List.append_nil]
  | case3 => simp
  | case4 rest ih =>
      rw [ih, List.reverse_cons, List.reverse_cons, List.append_assoc, List.singleton_append,
        stepsOf_append_slash, stepsOf_dot, List.append_nil]
  | case5 => rfl

/-- What is trimmed starts with no slash. -/
theorem trimEnd_slash_ne (cs : List Char) : trimEnd ('/' :: cs) ≠ '/' :: cs := by
  intro h
  rw [trimEnd] at h
  have hle := (trimEnd_suffix cs).length_le
  rw [h, List.length_cons] at hle
  omega

/-- What is trimmed starts with no dot that stands for nothing. -/
theorem trimEnd_dot_slash_ne (cs : List Char) : trimEnd ('.' :: '/' :: cs) ≠ '.' :: '/' :: cs := by
  intro h
  rw [trimEnd] at h
  have hle := (trimEnd_suffix cs).length_le
  rw [h, List.length_cons, List.length_cons] at hle
  omega

/-! ## The name -/

/-- A text that can be the name of a file. -/
structure IsName (name : List Char) : Prop where
  ne_nil : name ≠ []
  slash_notMem : '/' ∉ name
  ne_dot : name ≠ ['.']
  ne_dots : name ≠ ['.', '.']

instance (name : List Char) : Decidable (IsName name) :=
  decidable_of_iff (name ≠ [] ∧ '/' ∉ name ∧ name ≠ ['.'] ∧ name ≠ ['.', '.'])
    ⟨fun h => ⟨h.1, h.2.1, h.2.2.1, h.2.2.2⟩, fun h => ⟨h.1, h.2, h.3, h.4⟩⟩

/-- Nothing, or a slash and what is in front of it. -/
def EndsWithSlash (rest : List Char) : Prop := ∀ c more, rest = c :: more → c = '/'

theorem endsWithSlash_nil : EndsWithSlash [] := fun _ _ h => nomatch h

theorem endsWithSlash_cons (more : List Char) : EndsWithSlash ('/' :: more) :=
  fun _ _ h => (List.cons.inj h).1.symm

namespace IsName

variable {rest : List Char}

theorem ne_slash_of_mem_reverse (h : IsName name) {c : Char} (hc : c ∈ name.reverse) :
    c ≠ '/' := by
  rintro rfl
  exact h.slash_notMem (List.mem_reverse.mp hc)

/-- Behind a name nothing is trimmed. -/
theorem trimEnd_append (h : IsName name) (rest : List Char) :
    trimEnd (name.reverse ++ rest) = name.reverse ++ rest := by
  have hslash := @ne_slash_of_mem_reverse _ h
  have hdot : name.reverse ≠ ['.'] := fun heq => h.ne_dot (List.reverse_eq_iff.mp heq)
  cases hname : name.reverse with
  | nil => exact absurd (List.reverse_eq_nil_iff.mp hname) h.ne_nil
  | cons c cs =>
      rw [hname] at hslash hdot
      refine trimEnd.eq_5 _ (by simp) (fun more heq => ?_) (fun heq => ?_) (fun more heq => ?_)
      · exact hslash List.mem_cons_self (List.cons.inj heq).1
      · obtain ⟨rfl, hnil⟩ := List.cons.inj heq
        exact hdot (by rw [(List.append_eq_nil_iff.mp hnil).1])
      · obtain ⟨rfl, hcs⟩ := List.cons.inj heq
        cases cs with
        | nil => exact hdot rfl
        | cons d cs =>
            exact hslash (List.mem_cons_of_mem _ List.mem_cons_self) (List.cons.inj hcs).1

theorem splitLast_append (h : IsName name) (hrest : EndsWithSlash rest) :
    splitLast (name.reverse ++ rest) = (name.reverse, trimEnd (rest.drop 1)) := by
  have hmem : ∀ c ∈ name.reverse, decide (c ≠ '/') = true := fun c hc =>
    decide_eq_true (h.ne_slash_of_mem_reverse hc)
  rw [splitLast, List.takeWhile_append_of_pos hmem, List.dropWhile_append_of_pos hmem]
  cases rest with
  | nil => simp
  | cons c more =>
      obtain rfl := hrest c more rfl
      simp

/-- A name can stand first in the working folder or the root. -/
theorem leads (h : IsName name) (hlead : Leads lead []) (hdot : lead ≠ ['.']) :
    Leads lead name := by
  cases hlead with
  | root => exact .root name
  | here => exact absurd rfl hdot
  | bare =>
      refine .bare (fun rest hrest => ?_) h.ne_dot (fun rest hrest => ?_)
      · exact h.slash_notMem (by simp [hrest])
      · exact h.slash_notMem (by simp [hrest])

end IsName

/-- The last component of trimmed ones is a name, unless it is two dots, and stands behind
nothing or a slash. -/
theorem exists_isName_of_trimmed {cs : List Char} (htrimmed : trimEnd cs = cs) (hne : cs ≠ [])
    (hdots : (splitLast cs).1.reverse ≠ ['.', '.']) :
    ∃ rest, IsName (splitLast cs).1.reverse ∧ EndsWithSlash rest ∧
      cs = (splitLast cs).1 ++ rest := by
  have hall : ∀ c ∈ (splitLast cs).1, c ≠ '/' := fun c hc => by
    simpa using List.mem_takeWhile_imp (show c ∈ cs.takeWhile (· ≠ '/') from hc)
  have hcs : (splitLast cs).1 ++ cs.dropWhile (· ≠ '/') = cs := List.takeWhile_append_dropWhile
  have hends : EndsWithSlash (cs.dropWhile (· ≠ '/')) := by
    intro c more hc
    have := List.head?_dropWhile_not (· ≠ '/') cs
    rw [hc] at this
    simpa using this
  generalize (splitLast cs).1 = last at hall hcs hdots ⊢
  generalize cs.dropWhile (· ≠ '/') = rest at hends hcs
  subst hcs
  refine ⟨rest, ⟨?_, ?_, ?_, hdots⟩, hends, rfl⟩
  · rw [ne_eq, List.reverse_eq_nil_iff]
    rintro rfl
    cases rest with
    | nil => exact hne rfl
    | cons c more =>
        obtain rfl := hends c more rfl
        exact trimEnd_slash_ne more htrimmed
  · exact fun hc => hall _ (List.mem_reverse.mp hc) rfl
  · intro hdot
    obtain rfl := List.reverse_eq_iff.mp hdot
    cases rest with
    | nil => cases htrimmed
    | cons c more =>
        obtain rfl := hends c more rfl
        exact trimEnd_dot_slash_ne more htrimmed

/-! ## A path to a file -/

/-- The lead, the folder and the name of a path to a file. -/
structure Parts (p : Path) (lead folder name : List Char) : Prop where
  leads : Leads lead folder
  trimmed : trimEnd folder.reverse = folder.reverse
  isName : IsName name
  fileName?_eq : p.fileName? = some (String.ofList name)
  parent?_eq : p.parent? = some ⟨String.ofList (lead ++ folder)⟩
  steps_eq : p.steps = stepsOf folder ++ [String.ofList name]
  absolute_iff : p.components.head? = some "" ↔ lead = ['/']

/-- A path whose components end in a name is taken apart there. -/
theorem parts_of_leads {p : Path} {rest : List Char} (htext : p.text.toList = lead ++ body)
    (hleads : Leads lead body) (hname : IsName name) (hrest : EndsWithSlash rest)
    (hbody : trimEnd body.reverse = name.reverse ++ rest) :
    p.Parts lead (trimEnd (rest.drop 1)).reverse name := by
  have hlead : splitLead p.text.toList = (lead, body) := splitLead_eq_iff.mpr ⟨htext, hleads⟩
  have hlast := hname.splitLast_append hrest
  have hne : name.reverse ++ rest ≠ [] := by
    simp [hname.ne_nil]
  have hfolder : trimEnd (rest.drop 1) <:+ body.reverse :=
    calc trimEnd (rest.drop 1) <:+ rest.drop 1 := trimEnd_suffix _
      _ <:+ rest := List.drop_suffix 1 rest
      _ <:+ name.reverse ++ rest := List.suffix_append _ _
      _ <:+ body.reverse := hbody ▸ trimEnd_suffix _
  refine ⟨?_, ?_, hname, ?_, ?_, ?_, ?_⟩
  · obtain ⟨before, hbefore⟩ := hfolder
    have hsplit : (trimEnd (rest.drop 1)).reverse ++ before.reverse = body := by
      rw [← List.reverse_append, hbefore, List.reverse_reverse]
    refine Leads.of_append (hsplit ▸ hleads) ?_
    intro hdot
    have htrimmed := trimEnd_trimEnd (rest.drop 1)
    rw [List.reverse_eq_iff.mp hdot] at htrimmed
    cases htrimmed
  · rw [List.reverse_reverse, trimEnd_trimEnd]
  · unfold fileName?
    rw [hlead]
    dsimp only
    rw [hbody]
    split
    · exact absurd ‹_› hne
    · rw [hlast, List.reverse_reverse, if_neg hname.ne_dots]
  · unfold parent?
    rw [hlead]
    dsimp only
    rw [hbody]
    split
    · exact absurd ‹_› hne
    · rw [hlast]
  · have hsteps := stepsOf_of_slash_notMem hname.slash_notMem hname.ne_nil hname.ne_dot
    rw [steps_eq, htext, hleads.stepsOf_append, ← List.reverse_reverse body, ← stepsOf_trimEnd,
      hbody, stepsOf_trimEnd, List.reverse_append, List.reverse_reverse]
    cases rest with
    | nil => simpa using hsteps
    | cons c more =>
        obtain rfl := hrest c more rfl
        rw [List.reverse_cons, List.append_assoc, List.singleton_append, stepsOf_append_slash,
          hsteps]
        rfl
  · rw [head?_components, htext, ← String.toList_eq_nil_iff, htext]
    cases hleads with
    | root => simp
    | here => simp
    | fromHere => simp
    | bare hslash =>
        have hbodyNe : body ≠ [] := by
          rintro rfl
          exact hne hbody.symm
        simp [hbodyNe, hslash]

/-- A path with a file's name can be taken apart. -/
theorem exists_parts {p : Path} {name : String} (h : p.fileName? = some name) :
    ∃ lead folder, p.Parts lead folder name.toList := by
  rcases hlead : splitLead p.text.toList with ⟨lead, body⟩
  obtain ⟨htext, hleads⟩ := splitLead_eq_iff.mp hlead
  unfold fileName? at h
  simp only [hlead] at h
  split at h
  · cases h
  · rename_i hne
    split at h
    · cases h
    · rename_i hdots
      obtain ⟨rest, hname, hrest, hbody⟩ :=
        exists_isName_of_trimmed (trimEnd_trimEnd body.reverse) hne hdots
      obtain rfl := Option.some.inj h
      rw [String.toList_ofList]
      exact ⟨lead, _, parts_of_leads htext hleads hname hrest
        (by rw [List.reverse_reverse]; exact hbody)⟩

/-- A slash is put behind a folder unless it is the working folder or the root. -/
theorem toList_text_join (cs name : List Char) :
    (Path.join ⟨String.ofList cs⟩ (String.ofList name)).text.toList =
      if cs = [] ∨ cs.getLast? = some '/' then cs ++ name else cs ++ '/' :: name := by
  unfold Path.join
  simp only [String.toList_ofList, List.isEmpty_iff]
  split
  · simp
  · simp

/-- The folder of a file does not end in a slash, unless it is the root. -/
theorem Parts.getLast?_ne {p : Path} {folder : List Char} (h : p.Parts lead folder name)
    (hfolder : folder ≠ []) : (lead ++ folder).getLast? ≠ some '/' := by
  intro hlast
  rw [List.getLast?_append_of_ne_nil _ hfolder, ← List.head?_reverse] at hlast
  obtain ⟨more, hmore⟩ := List.head?_eq_some_iff.mp hlast
  exact trimEnd_slash_ne more (hmore ▸ h.trimmed)

/-- A name put behind the folder of a file is a file in that folder. -/
theorem Parts.join {p : Path} {folder other : List Char} (h : p.Parts lead folder name)
    (hother : IsName other) :
    (Path.join ⟨String.ofList (lead ++ folder)⟩ (String.ofList other)).Parts lead folder other := by
  have htext := toList_text_join (lead ++ folder) other
  by_cases hslash : folder ≠ [] ∨ lead = ['.']
  · have hnot : ¬ (lead ++ folder = [] ∨ (lead ++ folder).getLast? = some '/') := by
      rcases eq_or_ne folder [] with rfl | hfolder
      · obtain rfl := hslash.resolve_left (not_not.mpr rfl)
        decide
      · exact not_or.mpr ⟨fun hnil => hfolder (List.append_eq_nil_iff.mp hnil).2,
          h.getLast?_ne hfolder⟩
    rw [if_neg hnot, List.append_assoc] at htext
    have hparts := parts_of_leads htext (h.leads.append_slash hslash other) hother
      (endsWithSlash_cons folder.reverse) (by simp [hother.trimEnd_append])
    rwa [List.drop_one, List.tail_cons, h.trimmed, List.reverse_reverse] at hparts
  · obtain ⟨hfolder, hlead⟩ := not_or.mp hslash
    obtain rfl := not_not.mp hfolder
    have hjoin : lead ++ [] = [] ∨ (lead ++ []).getLast? = some '/' := by
      cases h.leads with
      | root => exact Or.inr rfl
      | here => exact absurd rfl hlead
      | bare => exact Or.inl rfl
    rw [if_pos hjoin] at htext
    rw [List.append_nil] at htext ⊢
    exact parts_of_leads htext (hother.leads h.leads hlead) hother endsWithSlash_nil
      (by simpa using hother.trimEnd_append [])

/-- Files of one folder have their lead and their folder's components in common. -/
theorem exists_parts_of_parent? {p q : Path} {pName qName : String}
    (hp : p.fileName? = some pName) (hq : q.fileName? = some qName)
    (hparent : p.parent? = q.parent?) :
    ∃ lead folder, p.Parts lead folder pName.toList ∧ q.Parts lead folder qName.toList := by
  obtain ⟨lead, folder, hpParts⟩ := exists_parts hp
  obtain ⟨lead', folder', hqParts⟩ := exists_parts hq
  rw [hpParts.parent?_eq, hqParts.parent?_eq, Option.some_inj, Path.mk.injEq,
    String.ofList_inj] at hparent
  -- the lead of a text is its own
  have hlead := splitLead_eq_iff.mpr ⟨rfl, hpParts.leads⟩
  rw [hparent, splitLead_eq_iff.mpr ⟨rfl, hqParts.leads⟩] at hlead
  obtain ⟨rfl, rfl⟩ := Prod.mk.inj hlead
  exact ⟨_, _, hpParts, hqParts⟩

/-- A path to a file has a folder, and names put behind that are files in it. -/
theorem exists_folder {p : Path} {name : String} (h : p.fileName? = some name) :
    ∃ folder, p.parent? = some folder ∧ ∀ other : String, IsName other.toList →
      (folder.join other).parent? = some folder ∧ (folder.join other).fileName? = some other := by
  obtain ⟨lead, folder, hparts⟩ := exists_parts h
  refine ⟨_, hparts.parent?_eq, fun other hother => ?_⟩
  have hjoined := hparts.join hother
  rw [String.ofList_toList] at hjoined
  exact ⟨hjoined.parent?_eq, hjoined.fileName?_eq.trans (by rw [String.ofList_toList])⟩

theorem isName_of_fileName? {p : Path} {name : String} (h : p.fileName? = some name) :
    IsName name.toList := by
  obtain ⟨_, _, hparts⟩ := exists_parts h
  exact hparts.isName

/-! ## Stem and extension -/

/-- The extension follows the last dot, which does not start the name. -/
theorem splitName_eq_iff {stem ext : List Char} :
    splitName name = (stem, some ext) ↔ name = stem ++ '.' :: ext ∧ stem ≠ [] ∧ '.' ∉ ext := by
  have hmem : ∀ c ∈ name.reverse.takeWhile (· ≠ '.'), c ≠ '.' := fun c hc => by
    simpa using List.mem_takeWhile_imp hc
  have hname : name.reverse.takeWhile (· ≠ '.') ++ name.reverse.dropWhile (· ≠ '.') =
    name.reverse := List.takeWhile_append_dropWhile
  constructor
  · intro h
    unfold splitName at h
    split at h
    · rename_i c before hbefore
      split at h
      · cases h
      · rename_i hne
        obtain ⟨rfl, hext⟩ := Prod.mk.inj h
        obtain rfl := Option.some.inj hext
        have hc : c = '.' := by
          have := List.head?_dropWhile_not (· ≠ '.') name.reverse
          rw [hbefore] at this
          simpa using this
        subst hc
        rw [hbefore] at hname
        refine ⟨?_, by simpa using hne, fun hdot => hmem '.' (List.mem_reverse.mp hdot) rfl⟩
        exact List.reverse_injective (hname.symm.trans (by simp))
    · cases h
  · rintro ⟨rfl, hstem, hext⟩
    have hreverse : (stem ++ '.' :: ext).reverse = ext.reverse ++ '.' :: stem.reverse := by simp
    have hpos : ∀ c ∈ ext.reverse, decide (c ≠ '.') = true := by
      intro c hc
      rw [decide_eq_true_eq]
      rintro rfl
      exact hext (List.mem_reverse.mp hc)
    unfold splitName
    rw [hreverse, List.dropWhile_append_of_pos hpos, List.takeWhile_append_of_pos hpos]
    simp [hstem]

/-- The path of a file whose name is a stem and an extension. -/
structure NamedBy (p : Path) (stem ext : String) : Prop where
  fileName?_eq : p.fileName? = some (stem ++ "." ++ ext)
  stem_ne : stem ≠ ""
  dot_notMem : '.' ∉ ext.toList

theorem NamedBy.splitName_eq {p : Path} {stem ext : String} (h : p.NamedBy stem ext) :
    splitName (stem ++ "." ++ ext).toList = (stem.toList, some ext.toList) :=
  splitName_eq_iff.mpr ⟨by simp, by simpa using h.stem_ne, h.dot_notMem⟩

theorem NamedBy.stem?_eq {p : Path} {stem ext : String} (h : p.NamedBy stem ext) :
    p.stem? = some stem := by
  rw [stem?, h.fileName?_eq, Option.map_some, h.splitName_eq, String.ofList_toList]

theorem NamedBy.extension?_eq {p : Path} {stem ext : String} (h : p.NamedBy stem ext) :
    p.extension? = some ext := by
  rw [extension?, h.fileName?_eq, Option.bind_some, h.splitName_eq, Option.map_some,
    String.ofList_toList]

theorem extension?_eq_some_iff {p : Path} {ext : String} :
    p.extension? = some ext ↔ ∃ stem, p.NamedBy stem ext := by
  refine ⟨fun h => ?_, fun ⟨stem, h⟩ => h.extension?_eq⟩
  obtain ⟨name, hname, h⟩ := Option.bind_eq_some_iff.mp h
  obtain ⟨ext', hext, rfl⟩ := Option.map_eq_some_iff.mp h
  obtain ⟨hparts, hstem, hdot⟩ := splitName_eq_iff.mp (Prod.ext rfl hext)
  refine ⟨String.ofList (splitName name.toList).1, ?_, ?_, ?_⟩
  · rw [hname, Option.some_inj, ← String.toList_inj]
    simpa using hparts
  · simpa using hstem
  · simpa using hdot

end EventMixing.Path
