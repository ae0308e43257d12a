import EventMixing.Json.Reader

/-!
# Records

A record is written as an object with its fields in any order, or as the list of its
values in order of declaration. Reading fills a draft field by field. A key that is
unknown or repeated is refused as soon as it is read, a field that is missing at the
end of the record.
-/

namespace EventMixing.Json

/-- A field of a record whose draft is a `δ`. -/
structure Field (δ : Type) where
  name : String
  /-- A list may not end before it. -/
  required : Bool
  isSet : δ → Bool
  /-- Reads a value and enters it into the draft. -/
  value : Reader (δ → δ)

/-- A record `α` read by way of a draft `δ`. -/
structure Schema (δ α : Type) where
  /-- What messages call the record. -/
  name : String
  fields : List (Field δ)
  start : δ
  finish : δ → Except Mismatch α

namespace Schema

variable {δ α : Type}

def field? (s : Schema δ α) (name : String) : Option (Field δ) :=
  s.fields.find? (·.name == name)

/-! ## As an object -/

/-- The field of the key that comes next, and the tokens after its colon. -/
def fieldAt (s : Schema δ α) (draft : δ) : List Token → Except Fault (Field δ × List Token)
  | .text key :: rest =>
    match s.field? key with
    | none => .error (.mismatch (.unknownField key (s.fields.map (·.name))))
    | some field =>
      if field.isSet draft then .error (.mismatch (.duplicateField key))
      else
        match rest with
        | [] => .error (.unfinished .object)
        | .colon :: rest => .ok (field, rest)
        | _ => .error (.malformed .expectedColon)
  | .broken true fault :: _ => .error fault
  | _ => .error (.malformed .keyNotText)

theorem fieldAt_shorter {s : Schema δ α} {draft tokens field rest}
    (h : s.fieldAt draft tokens = .ok (field, rest)) : rest.length < tokens.length := by
  unfold fieldAt at h
  split at h
  · split at h
    · cases h
    · split at h
      · cases h
      · split at h
        · cases h
        · obtain ⟨-, rfl⟩ := Prod.mk.inj (Except.ok.inj h)
          simp only [List.length_cons]
          omega
        · cases h
  · cases h
  · cases h

def afterMember : List Token → Except Fault Reader.After
  | [] => .error (.unfinished .object)
  | .closeObject :: rest => .ok (.closed rest)
  | [.comma] => .error (.unfinished .value)
  | .comma :: .closeObject :: _ => .error (.malformed .trailingComma)
  | .comma :: rest => .ok (.next rest)
  | _ => .error (.malformed .expectedObjectCommaOrEnd)

theorem afterMember_shorter {tokens after} (h : afterMember tokens = .ok after) :
    after.rest.length < tokens.length := by
  unfold afterMember at h
  split at h <;> cases h <;> simp only [Reader.After.rest, List.length_cons] <;> omega

/-- The next member entered into the draft, and what comes after it. -/
def member (s : Schema δ α) (draft : δ) (tokens : List Token) : Except Fault (δ × Reader.After) :=
  match s.fieldAt draft tokens with
  | .error fault => .error fault
  | .ok (field, rest) =>
    match field.value.read rest with
    | .error fault => .error fault
    | .ok (set, rest) => (afterMember rest).map (set draft, ·)

theorem member_shorter {s : Schema δ α} {draft tokens draft' after}
    (h : s.member draft tokens = .ok (draft', after)) : after.rest.length < tokens.length := by
  unfold member at h
  split at h
  · cases h
  · rename_i field rest found
    split at h
    · cases h
    · rename_i set values taken
      cases reached : afterMember values with
      | error fault => simp [reached, Except.map] at h
      | ok after' =>
        simp only [reached, Except.map, Except.ok.injEq, Prod.mk.injEq] at h
        have := fieldAt_shorter found
        have := field.value.shorter taken
        have := afterMember_shorter reached
        rw [← h.2]
        omega

/-- The members from a key on, up to and with the closing brace. -/
def members (s : Schema δ α) (draft : δ) (tokens : List Token) : Except Fault (δ × List Token) :=
  match taken : s.member draft tokens with
  | .error fault => .error fault
  | .ok (draft, .closed rest) => .ok (draft, rest)
  | .ok (draft, .next rest) =>
    have : rest.length < tokens.length := member_shorter taken
    s.members draft rest
termination_by tokens.length

theorem members_eq (s : Schema δ α) (draft : δ) (tokens : List Token) :
    s.members draft tokens = match s.member draft tokens with
      | .error fault => .error fault
      | .ok (draft, .closed rest) => .ok (draft, rest)
      | .ok (draft, .next rest) => s.members draft rest := by
  rw [members]
  split <;> simp_all

theorem members_shorter (s : Schema δ α) {draft tokens draft' rest}
    (h : s.members draft tokens = .ok (draft', rest)) : rest.length < tokens.length := by
  fun_induction members s draft tokens generalizing draft' rest with
  | case1 => simp_all
  | case2 draft tokens draft₁ last taken =>
    have := member_shorter taken
    obtain ⟨-, rfl⟩ := Prod.mk.inj (Except.ok.inj h)
    exact this
  | case3 draft tokens draft₁ next taken shorter ih =>
    have := ih h
    omega

/-! ## As a list -/

/-- The end of the list after the last field. -/
def listEnd : List Token → Except Fault (List Token)
  | [] => .error (.unfinished .list)
  | .closeList :: rest => .ok rest
  | .comma :: .closeList :: _ => .error (.malformed .trailingComma)
  | _ => .error (.malformed .trailingCharacters)

/-- The tokens from the `index`-th value on, past the comma before all but the first. -/
def atElement (index : Nat) : List Token → Except Fault (List Token)
  | [] => .error (.unfinished .list)
  | token :: rest =>
    if index = 0 then .ok (token :: rest)
    else if token ≠ .comma then .error (.malformed .expectedListCommaOrEnd)
    else match rest with
      | [] => .error (.unfinished .value)
      | .closeList :: _ => .error (.malformed .trailingComma)
      | token :: rest => .ok (token :: rest)

theorem atElement_length_le {index tokens rest} (h : atElement index tokens = .ok rest) :
    rest.length ≤ tokens.length := by
  unfold atElement at h
  split at h
  · cases h
  · split at h
    · obtain rfl := Except.ok.inj h
      exact Nat.le_refl _
    · split at h
      · cases h
      · split at h
        · cases h
        · cases h
        · obtain rfl := Except.ok.inj h
          simp only [List.length_cons]
          omega

/-- The values of the fields from the `index`-th on, up to and with the closing bracket. -/
def positions (s : Schema δ α) (draft : δ) (index : Nat) :
    List (Field δ) → List Token → Except Fault (δ × List Token)
  | [], tokens => (listEnd tokens).map (draft, ·)
  | field :: fields, .closeList :: rest =>
    if field.required then
      .error (.mismatch (.invalidLength index
        (s.name ++ " with " ++ toString s.fields.length ++ " elements")))
    else s.positions draft (index + 1) fields (.closeList :: rest)
  | field :: fields, tokens =>
    match atElement index tokens with
    | .error fault => .error fault
    | .ok tokens =>
      match field.value.read tokens with
      | .error fault => .error fault
      | .ok (set, rest) => s.positions (set draft) (index + 1) fields rest

theorem positions_shorter (s : Schema δ α) {draft index fields tokens draft' rest}
    (h : s.positions draft index fields tokens = .ok (draft', rest)) :
    rest.length < tokens.length := by
  fun_induction positions s draft index fields tokens generalizing draft' rest with
  | case1 draft index tokens =>
    revert h
    fun_cases listEnd tokens <;> simp [Except.map]
    rintro - rfl
    omega
  | case2 | case4 | case5 => simp at h
  | case3 _ _ _ _ _ _ ih => exact ih h
  | case6 _ _ field _ _ _ _ here _ _ taken ih =>
    have := ih h
    have := field.value.shorter taken
    have := atElement_length_le here
    omega

/-! ## As either -/

/-- The members of an object after its opening brace. -/
def object (s : Schema δ α) : List Token → Except Fault (δ × List Token)
  | [] => .error (.unfinished .object)
  | .closeObject :: rest => .ok (s.start, rest)
  | tokens => s.members s.start tokens

def draft (s : Schema δ α) : List Token → Except Fault (δ × List Token)
  | [] => .error (.unfinished .value)
  | .openObject :: rest => s.object rest
  | .openList :: rest => s.positions s.start 0 s.fields rest
  | token :: _ => .error (Reader.refuse s.name token)

theorem draft_shorter (s : Schema δ α) {tokens draft' rest}
    (h : s.draft tokens = .ok (draft', rest)) : rest.length < tokens.length := by
  revert h
  fun_cases draft s tokens
  case case1 => simp
  case case2 tail =>
    fun_cases object s tail
    case case1 => simp
    case case2 => simp; rintro - rfl; omega
    case case3 =>
      intro h
      have := s.members_shorter h
      simp
      omega
  case case3 =>
    intro h
    have := s.positions_shorter h
    simp
    omega
  case case4 => simp

/-- Reads the record in either form. -/
def reader (s : Schema δ α) : Reader α where
  read tokens :=
    match s.draft tokens with
    | .error fault => .error fault
    | .ok (draft, rest) =>
      match s.finish draft with
      | .error mismatch => .error (.mismatch mismatch)
      | .ok a => .ok (a, rest)
  shorter := by
    intro tokens a rest h
    cases hd : s.draft tokens with
    | error fault => simp [hd] at h
    | ok p =>
      obtain ⟨draft, rest'⟩ := p
      cases hf : s.finish draft with
      | error mismatch => simp [hd, hf] at h
      | ok b =>
        simp only [hd, hf, Except.ok.injEq, Prod.mk.injEq] at h
        exact h.2 ▸ s.draft_shorter hd

end Schema

end EventMixing.Json
