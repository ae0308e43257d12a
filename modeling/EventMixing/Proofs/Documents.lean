import EventMixing.Json.Record
import EventMixing.Proofs.Tokens
import Mathlib.Data.List.Permutation

/-!
# Written documents are read back

What a reader takes off the tokens of a written document does not depend on what stands
behind it: `Reader.Reads` says that it takes the whole document and a value with it, or
that it fails. Lists and records are read so if what is in them is: `Reads.list` for a
list of any length, `Schema.reads_object` for the members of an object in the order in
which they `Fill` the draft of a record.
-/

namespace EventMixing.Json

variable {α β : Type}

theorem toOption_map {ε : Type} (x : Except ε α) (f : α → β) :
    (x.map f).toOption = x.toOption.map f := by
  cases x <;> rfl

theorem toOption_eq_some_iff {ε : Type} {x : Except ε α} {a : α} :
    x.toOption = some a ↔ x = .ok a := by
  cases x with
  | error e => exact iff_of_false nofun nofun
  | ok b =>
      constructor
      · intro h
        exact congrArg Except.ok (Option.some.inj h)
      · rintro h
        exact congrArg some (Except.ok.inj h)

theorem toOption_eq_none_iff {ε : Type} {x : Except ε α} :
    x.toOption = none ↔ ∃ e, x = .error e := by
  cases x with
  | error e => exact iff_of_true rfl ⟨e, rfl⟩
  | ok b => exact iff_of_false nofun nofun

namespace Document

theorem reread_cons (t : Token) (d : Document) :
    Document.reread (t :: d) = t.reread :: d.reread := rfl

theorem reread_append (d e : Document) :
    Document.reread (d ++ e) = d.reread ++ e.reread := List.map_append

end Document

/-- The reader takes what is read of a document, and `x` with it, or fails if that is
`none`. -/
structure Reader.Reads (r : Reader α) (d : Document) (x : Option α) : Prop where
  opens : ∃ t tokens, d.reread = t :: tokens ∧ t ≠ .closeList
  read : ∀ rest, (r.read (d.reread ++ rest)).toOption = x.map (·, rest)

namespace Reader.Reads

variable {r : Reader α} {d : Document} {x : Option α}

theorem read_some {a : α} (h : r.Reads d (some a)) (rest : List Token) :
    r.read (d.reread ++ rest) = .ok (a, rest) :=
  toOption_eq_some_iff.mp (h.read rest)

theorem read_none (h : r.Reads d none) (rest : List Token) :
    ∃ fault, r.read (d.reread ++ rest) = .error fault :=
  toOption_eq_none_iff.mp (h.read rest)

theorem map (h : r.Reads d x) (f : α → β) : (r.map f).Reads d (x.map f) := by
  refine ⟨h.opens, fun rest => ?_⟩
  have hread : (r.map f).read (d.reread ++ rest) =
      (r.read (d.reread ++ rest)).map fun p => (f p.1, p.2) := rfl
  rw [hread, toOption_map, h.read]
  cases x <;> rfl

/-! ## Single tokens -/

theorem text (meaning : String → Except String α) (s : String) :
    (Reader.text meaning).Reads (Document.text s) (meaning s).toOption := by
  have hreread : (Document.text s).reread = [.text s] :=
    congrArg (· :: []) (Token.text_rereads s).2
  refine ⟨⟨.text s, [], hreread, by simp⟩, fun rest => ?_⟩
  rw [hreread]
  simp only [Reader.text, Reader.ofToken, List.cons_append, List.nil_append]
  cases meaning s <;> rfl

theorem optionalNatural (n : UInt64) :
    Reader.optionalNatural.Reads (Document.natural n.toNat) (some (some n)) := by
  have hreread : (Document.natural n.toNat).reread = [.natural n.toNat] :=
    congrArg (· :: []) (Token.natural_rereads n.toNat_lt_size).2
  refine ⟨⟨_, [], hreread, by simp⟩, fun rest => ?_⟩
  rw [hreread]
  simp only [Reader.optionalNatural, Reader.ofToken, List.cons_append, List.nil_append,
    UInt64.ofNat_toNat]
  rfl

theorem double {e : Double}
    (h : e.isFinite = true → Reader.double.readText (Token.real e).write.toList = .ok e) :
    Reader.double.Reads (Document.real e) (if e.isFinite then some e else none) := by
  cases hfinite : e.isFinite with
  | true =>
      obtain ⟨-, hread⟩ := Token.real_rereads (h hfinite)
      refine ⟨⟨_, [], rfl, ?_⟩, fun rest => congrArg Except.toOption (hread rest)⟩
      intro hclose
      have hnil := hread []
      rw [hclose] at hnil
      cases hnil
  | false =>
      have hreread : (Document.real e).reread = [.null] :=
        congrArg (· :: []) (Token.real_rereads_of_not_finite hfinite).2
      refine ⟨⟨_, [], hreread, by simp⟩, fun rest => ?_⟩
      rw [hreread]
      rfl

/-! ## Lists -/

theorem afterElement_comma {t : Token} (h : t ≠ .closeList) (tail : List Token) :
    Reader.afterElement (.comma :: t :: tail) = .ok (.next (t :: tail)) := by
  unfold Reader.afterElement
  split <;> simp_all

theorem read_list_cons (r : Reader α) {t : Token} (h : t ≠ .closeList) (tail : List Token) :
    r.list.read (.openList :: t :: tail) = r.elements (t :: tail) := by
  simp only [Reader.list]
  split <;> simp_all

theorem reread_separated_cons (d d' : Document) (items : List Document) :
    (Document.separated (d :: d' :: items)).reread =
      d.reread ++ .comma :: (Document.separated (d' :: items)).reread := by
  rw [Document.separated, Document.reread_append, Document.reread_cons,
    (Token.mark_rereads rfl).2]
  simp

theorem separated_opens {items : List Document} {xs : List (Option α)}
    (h : List.Forall₂ r.Reads items xs) (hne : items ≠ []) :
    ∃ t tokens, (Document.separated items).reread = t :: tokens ∧ t ≠ .closeList := by
  cases h with
  | nil => exact absurd rfl hne
  | @cons d x items xs hd hrest =>
      obtain ⟨t, tokens, hreread, ht⟩ := hd.opens
      cases items with
      | nil => exact ⟨t, tokens, hreread, ht⟩
      | cons d' items =>
          refine ⟨t, tokens ++ .comma :: (Document.separated (d' :: items)).reread, ?_, ht⟩
          rw [reread_separated_cons, hreread, List.cons_append]

theorem elements {items : List Document} {xs : List (Option α)}
    (h : List.Forall₂ r.Reads items xs) (hne : items ≠ []) (rest : List Token) :
    (r.elements ((Document.separated items).reread ++ .closeList :: rest)).toOption =
      (xs.mapM id).map (·, rest) := by
  induction h with
  | nil => exact absurd rfl hne
  | @cons d x items xs hd hrest ih =>
      rw [List.mapM_cons]
      cases items with
      | nil =>
          cases hrest
          have hone : Document.separated [d] = d := rfl
          rw [hone]
          cases x with
          | none =>
              obtain ⟨fault, hfault⟩ := hd.read_none (.closeList :: rest)
              rw [elements_of_error hfault]
              rfl
          | some a =>
              rw [elements_of_ok (hd.read_some _)]
              rfl
      | cons d' items =>
          obtain ⟨t, tokens, hopens, ht⟩ := separated_opens hrest (by simp)
          have hrest := ih (by simp)
          rw [hopens, List.cons_append] at hrest
          rw [reread_separated_cons, List.append_assoc, List.cons_append, hopens,
            List.cons_append]
          cases x with
          | none =>
              obtain ⟨fault, hfault⟩ := hd.read_none (.comma :: t :: (tokens ++ .closeList :: rest))
              rw [elements_of_error hfault]
              rfl
          | some a =>
              rw [elements_of_ok (hd.read_some _), afterElement_comma ht]
              dsimp only
              rw [toOption_map, hrest]
              cases xs.mapM id <;> rfl

/-- A list is read as the list of its items, and fails with any of them. -/
theorem list {items : List Document} {xs : List (Option α)}
    (h : List.Forall₂ r.Reads items xs) :
    r.list.Reads (Document.list items) (xs.mapM id) := by
  have hreread : (Document.list items).reread =
      .openList :: ((Document.separated items).reread ++ [.closeList]) := by
    rw [Document.list, Document.reread_append, Document.reread_cons, Document.reread_cons,
      (Token.mark_rereads rfl).2, (Token.mark_rereads rfl).2]
    rfl
  refine ⟨⟨_, _, hreread, by simp⟩, fun rest => ?_⟩
  rw [hreread, List.cons_append, List.append_assoc, List.singleton_append]
  cases items with
  | nil =>
      cases h
      rfl
  | cons d items =>
      have helements := elements h (by simp) rest
      obtain ⟨t, tokens, hopens, ht⟩ := separated_opens h (by simp)
      rw [hopens, List.cons_append] at helements ⊢
      rw [read_list_cons r ht, helements]

end Reader.Reads

/-! ## Records -/

namespace Schema

variable {δ : Type} {s : Schema δ α}

/-- A member of an object: its key, and the document behind the colon. -/
def memberDocument (m : String × Document) : Document := .text m.1 :: .colon :: m.2

/-- Members entered into a draft one after the other, up to the first whose value fails. -/
inductive Fills (s : Schema δ α) : δ → List (String × Document) → Option δ → Prop
  | done (draft : δ) : Fills s draft [] (some draft)
  | next {draft : δ} {field : Field δ} {m : String × Document}
      {rest : List (String × Document)} {set : δ → δ} {x : Option δ}
      (hfield : s.field? m.1 = some field) (hunset : field.isSet draft = false)
      (hread : field.value.Reads m.2 (some set)) (h : Fills s (set draft) rest x) :
      Fills s draft (m :: rest) x
  | stuck {draft : δ} {field : Field δ} {m : String × Document}
      {rest : List (String × Document)}
      (hfield : s.field? m.1 = some field) (hunset : field.isSet draft = false)
      (hread : field.value.Reads m.2 none) : Fills s draft (m :: rest) none

theorem reread_memberDocument (m : String × Document) :
    (memberDocument m).reread = .text m.1 :: .colon :: m.2.reread := by
  rw [memberDocument, Document.reread_cons, Document.reread_cons, (Token.text_rereads m.1).2,
    (Token.mark_rereads rfl).2]

theorem fieldAt_member {draft : δ} {field : Field δ} {key : String}
    (hfield : s.field? key = some field) (hunset : field.isSet draft = false)
    (rest : List Token) :
    s.fieldAt draft (.text key :: .colon :: rest) = .ok (field, rest) := by
  simp only [fieldAt, hfield, hunset]
  rfl

theorem member_of_some {draft : δ} {field : Field δ} {m : String × Document} {set : δ → δ}
    (hfield : s.field? m.1 = some field) (hunset : field.isSet draft = false)
    (hread : field.value.Reads m.2 (some set)) (rest : List Token) :
    s.member draft ((memberDocument m).reread ++ rest) =
      (afterMember rest).map (set draft, ·) := by
  rw [reread_memberDocument, List.cons_append, List.cons_append, member,
    fieldAt_member hfield hunset]
  dsimp only
  rw [hread.read_some]

theorem member_of_none {draft : δ} {field : Field δ} {m : String × Document}
    (hfield : s.field? m.1 = some field) (hunset : field.isSet draft = false)
    (hread : field.value.Reads m.2 none) (rest : List Token) :
    ∃ fault, s.member draft ((memberDocument m).reread ++ rest) = .error fault := by
  obtain ⟨fault, hfault⟩ := hread.read_none rest
  refine ⟨fault, ?_⟩
  rw [reread_memberDocument, List.cons_append, List.cons_append, member,
    fieldAt_member hfield hunset]
  dsimp only
  rw [hfault]

theorem reread_members (m : String × Document) (members : List (String × Document)) :
    ∃ tail, (Document.separated ((m :: members).map memberDocument)).reread =
      (memberDocument m).reread ++ tail := by
  cases members with
  | nil => exact ⟨[], (List.append_nil _).symm⟩
  | cons m' members => exact ⟨_, Reader.Reads.reread_separated_cons _ _ _⟩

theorem members_of_fills {draft : δ} {members : List (String × Document)} {x : Option δ}
    (h : s.Fills draft members x) (hne : members ≠ []) (rest : List Token) :
    (s.members draft ((Document.separated (members.map memberDocument)).reread ++
      .closeObject :: rest)).toOption = x.map (·, rest) := by
  induction h with
  | done => exact absurd rfl hne
  | @next draft field m members set x hfield hunset hread hrest ih =>
      cases members with
      | nil =>
          cases hrest
          have hone : Document.separated ([m].map memberDocument) = memberDocument m := rfl
          rw [hone, members_eq, member_of_some hfield hunset hread]
          rfl
      | cons m' members =>
          have hrest := ih (by simp)
          obtain ⟨tail, htail⟩ := reread_members m' members
          rw [htail, reread_memberDocument, List.cons_append, List.cons_append] at hrest
          rw [List.map_cons, List.map_cons, Reader.Reads.reread_separated_cons,
            ← List.map_cons, List.append_assoc, List.cons_append, members_eq,
            member_of_some hfield hunset hread, htail, reread_memberDocument]
          exact hrest
  | @stuck draft field m members hfield hunset hread =>
      obtain ⟨tail, htail⟩ := reread_members m members
      obtain ⟨fault, hfault⟩ := member_of_none hfield hunset hread (tail ++ .closeObject :: rest)
      rw [htail, List.append_assoc, members_eq, hfault]
      rfl

/-- An object is read as the record whose draft its members fill. -/
theorem reads_object {members : List (String × Document)} {x : Option δ}
    (h : s.Fills s.start members x) :
    s.reader.Reads (Document.object members)
      (x.bind fun draft => (s.finish draft).toOption) := by
  have hobject : Document.object members =
      .openObject :: Document.separated (members.map memberDocument) ++ [.closeObject] := rfl
  have hreread : (Document.object members).reread = .openObject ::
      ((Document.separated (members.map memberDocument)).reread ++ [.closeObject]) := by
    rw [hobject, Document.reread_append, Document.reread_cons, Document.reread_cons,
      (Token.mark_rereads rfl).2, (Token.mark_rereads rfl).2]
    rfl
  refine ⟨⟨_, _, hreread, by simp⟩, fun rest => ?_⟩
  rw [hreread, List.cons_append, List.append_assoc, List.singleton_append]
  have hdraft : (s.draft (.openObject :: ((Document.separated
      (members.map memberDocument)).reread ++ .closeObject :: rest))).toOption =
        x.map (·, rest) := by
    cases members with
    | nil =>
        cases h
        rfl
    | cons m members =>
        rw [← members_of_fills h (by simp) rest]
        obtain ⟨tail, htail⟩ := reread_members m members
        rw [htail, reread_memberDocument]
        rfl
  unfold reader
  dsimp only
  cases hx : s.draft (.openObject :: ((Document.separated
      (members.map memberDocument)).reread ++ .closeObject :: rest)) with
  | error fault =>
      rw [hx] at hdraft
      cases x with
      | none => rfl
      | some draft => cases hdraft
  | ok p =>
      rw [hx] at hdraft
      cases x with
      | none => cases hdraft
      | some draft =>
          obtain rfl := Option.some.inj hdraft
          dsimp only [Option.bind]
          cases s.finish draft <;> rfl

/-- Two members fill a draft in either order, if neither field minds that the other is set. -/
theorem fills_pair {draft : δ} {m₁ m₂ : String × Document} {field₁ field₂ : Field δ}
    {set₁? set₂? : Option (δ → δ)}
    (h₁ : s.field? m₁.1 = some field₁) (h₂ : s.field? m₂.1 = some field₂)
    (hread₁ : field₁.value.Reads m₁.2 set₁?) (hread₂ : field₂.value.Reads m₂.2 set₂?)
    (hunset₁ : field₁.isSet draft = false) (hunset₂ : field₂.isSet draft = false)
    (hkeep₁ : ∀ set ∈ set₂?, field₁.isSet (set draft) = false)
    (hkeep₂ : ∀ set ∈ set₁?, field₂.isSet (set draft) = false)
    (hcomm : ∀ set₁ ∈ set₁?, ∀ set₂ ∈ set₂?, set₁ (set₂ draft) = set₂ (set₁ draft))
    {members : List (String × Document)} (h : members.Perm [m₁, m₂]) :
    s.Fills draft members (set₁?.bind fun set₁ => set₂?.map fun set₂ => set₂ (set₁ draft)) := by
  rcases List.perm_pair.mp h with rfl | rfl
  · cases set₁? with
    | none => exact .stuck h₁ hunset₁ hread₁
    | some set₁ =>
        refine .next h₁ hunset₁ hread₁ ?_
        cases set₂? with
        | none => exact .stuck h₂ (hkeep₂ set₁ rfl) hread₂
        | some set₂ => exact .next h₂ (hkeep₂ set₁ rfl) hread₂ (.done _)
  · cases set₂? with
    | none =>
        have hnone : (set₁?.bind fun set₁ => (none : Option (δ → δ)).map fun set₂ =>
            set₂ (set₁ draft)) = none := by cases set₁? <;> rfl
        rw [hnone]
        exact .stuck h₂ hunset₂ hread₂
    | some set₂ =>
        refine .next h₂ hunset₂ hread₂ ?_
        cases set₁? with
        | none => exact .stuck h₁ (hkeep₁ set₂ rfl) hread₁
        | some set₁ =>
            have hfills := Fills.next h₁ (hkeep₁ set₂ rfl) hread₁ (.done _)
            rwa [hcomm set₁ rfl set₂ rfl] at hfills

end Schema

/-- A text that spells a document is read as the document is. -/
theorem Reader.Reads.readText {r : Reader α} {d : Document} {x : Option α} (h : r.Reads d x)
    (hlegible : d.Legible) {text : List Char} (hspells : Spells d text) :
    (r.readText text).toOption = x := by
  have hread := h.read []
  rw [List.append_nil] at hread
  rw [Reader.readText, tokens_of_spells hlegible hspells]
  cases hr : r.read d.reread with
  | error fault =>
      rw [hr] at hread
      cases x with
      | none => rfl
      | some a => cases hread
  | ok p =>
      rw [hr] at hread
      cases x with
      | none => cases hread
      | some a =>
          obtain rfl := Option.some.inj hread
          rfl

end EventMixing.Json
