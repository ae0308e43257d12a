import EventMixing.Json.Lexing

/-!
# Readers of JSON data

A reader takes a value off the front of a list of tokens. It always takes at least one
token, which is why reading a list ends. The first fault from the left decides, be it
in the form of the text or in its data.
-/

namespace EventMixing.Json

/-- Takes a value off a list of tokens, or tells what is wrong. -/
structure Reader (α : Type) where
  read : List Token → Except Fault (α × List Token)
  shorter : ∀ {tokens a rest}, read tokens = .ok (a, rest) → rest.length < tokens.length

namespace Reader

variable {α β : Type}

/-- The fault of a value that starts with `token` where `expected` is wanted. -/
def refuse (expected : String) (token : Token) : Fault :=
  let wrongType (found : Found) := Fault.mismatch (.invalidType found expected)
  match token with
  | .null => wrongType .null
  | .boolean b => wrongType (.boolean b)
  | .natural n => wrongType (.integer n)
  | .negative i => wrongType (.integer i)
  | .real d => wrongType (.real d)
  | .text s => wrongType (.text s)
  | .openList => wrongType .list
  | .openObject => wrongType .object
  | .broken _ fault => fault
  | .closeList | .closeObject | .comma | .colon => .malformed .expectedValue

/-- A value that is a single token. -/
def ofToken (take : Token → Except Fault α) : Reader α where
  read
    | [] => .error (.unfinished .value)
    | token :: rest => (take token).map (·, rest)
  shorter := by
    intro tokens a rest h
    cases tokens with
    | nil => simp at h
    | cons token tail =>
      cases ht : take token with
      | error f => simp [ht, Except.map] at h
      | ok b =>
        simp only [ht, Except.map, Except.ok.injEq, Prod.mk.injEq] at h
        simp [← h.2]

/-- A whole number that fits in 64 bits, or nothing where `null` stands. -/
def optionalNatural : Reader (Option UInt64) := ofToken fun token =>
  match token with
  | .null => .ok none
  | .natural n => .ok (some (UInt64.ofNat n))
  | .negative i => .error (.mismatch (.invalidValue (.integer i) "usize"))
  | token => .error (refuse "usize" token)

/-- Any number, as the nearest double. -/
def double : Reader Double := ofToken fun token =>
  match token with
  | .natural n => .ok (Double.ofNat n)
  | .negative i => .ok (Double.ofInt i)
  | .real d => .ok d
  | token => .error (refuse "f64" token)

/-- A quoted text that means a value; `meaning` gives its reason for refusing one. -/
def text (meaning : String → Except String α) : Reader α := ofToken fun token =>
  match token with
  | .text s =>
    match meaning s with
    | .ok a => .ok a
    | .error reason => .error (.mismatch (.refused reason))
  | token => .error (refuse "a string" token)

/-- The same tokens, the value changed. -/
def map (f : α → β) (r : Reader α) : Reader β where
  read tokens := (r.read tokens).map fun (a, rest) => (f a, rest)
  shorter := by
    intro tokens b rest h
    cases hr : r.read tokens with
    | error fault => simp [hr, Except.map] at h
    | ok p =>
      obtain ⟨a, rest'⟩ := p
      simp only [hr, Except.map, Except.ok.injEq, Prod.mk.injEq] at h
      exact h.2 ▸ r.shorter hr

/-! ## Lists -/

/-- What comes after an element or a member: the end, or another one. -/
inductive After where
  | closed (rest : List Token)
  | next (rest : List Token)

def After.rest : After → List Token
  | closed rest | next rest => rest

def afterElement : List Token → Except Fault After
  | [] => .error (.unfinished .list)
  | .closeList :: rest => .ok (.closed rest)
  | [.comma] => .error (.unfinished .value)
  | .comma :: .closeList :: _ => .error (.malformed .trailingComma)
  | .comma :: rest => .ok (.next rest)
  | _ => .error (.malformed .expectedListCommaOrEnd)

theorem afterElement_shorter {tokens after} (h : afterElement tokens = .ok after) :
    after.rest.length < tokens.length := by
  unfold afterElement at h
  split at h <;> cases h <;> simp only [After.rest, List.length_cons] <;> omega

/-- The elements of a list from the next one on, up to and with the closing bracket. -/
def elements (r : Reader α) (tokens : List Token) : Except Fault (List α × List Token) :=
  match taken : r.read tokens with
  | .error fault => .error fault
  | .ok (a, rest) =>
    match reached : afterElement rest with
    | .error fault => .error fault
    | .ok (.closed rest) => .ok ([a], rest)
    | .ok (.next rest) =>
      have : rest.length < tokens.length :=
        Nat.lt_trans (afterElement_shorter reached) (r.shorter taken)
      (elements r rest).map fun (as, rest) => (a :: as, rest)
termination_by tokens.length

theorem elements_of_error {r : Reader α} {tokens fault} (h : r.read tokens = .error fault) :
    r.elements tokens = .error fault := by
  rw [elements]
  split
  · rename_i h'
    exact congrArg Except.error (Except.error.inj (h'.symm.trans h))
  · rename_i h'
    cases h'.symm.trans h

theorem elements_of_ok {r : Reader α} {tokens a rest} (h : r.read tokens = .ok (a, rest)) :
    r.elements tokens = match afterElement rest with
      | .error fault => .error fault
      | .ok (.closed rest) => .ok ([a], rest)
      | .ok (.next rest) => (r.elements rest).map fun (as, rest) => (a :: as, rest) := by
  rw [elements]
  split
  · rename_i h'
    cases h'.symm.trans h
  · rename_i h'
    cases h'.symm.trans h
    split <;> simp_all

theorem elements_shorter (r : Reader α) {tokens as rest}
    (h : r.elements tokens = .ok (as, rest)) : rest.length < tokens.length := by
  fun_induction elements r tokens generalizing as rest with
  | case1 | case2 => simp_all
  | case3 tokens a values taken last reached =>
    have := r.shorter taken
    have := afterElement_shorter reached
    obtain ⟨-, rfl⟩ := Prod.mk.inj (Except.ok.inj h)
    simp only [After.rest] at this
    omega
  | case4 tokens a values taken next reached shorter ih =>
    cases he : r.elements next with
    | error fault => simp [he, Except.map] at h
    | ok p =>
      obtain ⟨as', rest'⟩ := p
      simp only [he, Except.map, Except.ok.injEq, Prod.mk.injEq] at h
      have := ih he
      rw [← h.2]
      omega

def list (r : Reader α) : Reader (List α) where
  read
    | [] => .error (.unfinished .value)
    | [.openList] => .error (.unfinished .list)
    | .openList :: .closeList :: rest => .ok ([], rest)
    | .openList :: rest => r.elements rest
    | token :: _ => .error (refuse "a sequence" token)
  shorter := by
    intro tokens as rest h
    split at h
    · simp at h
    · simp at h
    · obtain ⟨-, rfl⟩ := Prod.mk.inj (Except.ok.inj h)
      simp only [List.length_cons]
      omega
    · have := r.elements_shorter h
      simp only [List.length_cons]
      omega
    · simp at h

def readText (r : Reader α) (text : List Char) : Except Fault α :=
  match r.read (tokens text) with
  | .error fault => .error fault
  | .ok (a, []) => .ok a
  | .ok (_, _ :: _) => .error (.malformed .trailingCharacters)

end Reader

end EventMixing.Json
