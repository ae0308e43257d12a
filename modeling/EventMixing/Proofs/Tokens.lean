import EventMixing.Json.Reader
import EventMixing.Json.Writing
import Mathlib.Data.List.Basic
import Mathlib.Data.List.Chain
import Mathlib.Data.List.TakeWhile

/-!
# Written tokens are read back

Where a token is written, `Token.Rereads` says that it is read, whatever stands behind it
that is not more of a number. Marks, words and quoted texts tell where they end; a number
goes on as far as it can, so that two numbers may not stand side by side. That is all that a
`Legible` document needs, and then its tokens are read back however they are laid out
(`tokens_of_spells`).
-/

namespace EventMixing.Json

open Lexing (lexeme readWord readQuoted readEscape readHex readHexEscape hexDigit?)
open Number (readUnsigned readAfterWhole readScaled readExponent gather)

/-! ## One token after the other -/

theorem tokens_of_isSpace {c : Char} (h : isSpace c = true) (rest : List Char) :
    tokens (c :: rest) = tokens rest := by
  rw [tokens, if_pos h]

theorem tokens_of_lexeme {c : Char} {rest : List Char} {t : Token} {n : Nat}
    (hspace : isSpace c = false) (h : lexeme c rest = .ok (t, n)) :
    tokens (c :: rest) = t :: tokens (rest.drop n) := by
  rw [tokens, if_neg (by simp [hspace]), h]

theorem tokens_spaces {space : List Char} (h : ∀ c ∈ space, isSpace c = true)
    (rest : List Char) : tokens (space ++ rest) = tokens rest := by
  induction space with
  | nil => rfl
  | cons c space ih =>
      rw [List.cons_append, tokens_of_isSpace (h c (by simp)),
        ih fun c' hc' => h c' (List.mem_cons_of_mem _ hc')]

/-! ## Words -/

theorem readWord_append (t : Token) (word rest : List Char) :
    readWord t word (word ++ rest) = .ok (t, word.length) := by
  have hgo : readWord.go word (word ++ rest) = .ok () := by
    induction word with
    | nil => rw [readWord.go]
    | cons c word ih => rw [List.cons_append, readWord.go, if_pos rfl, ih]
  rw [readWord, hgo]
  rfl

/-! ## Quoted texts -/

theorem readQuoted_plain {c : Char} (hquote : c ≠ '"') (hslash : c ≠ '\\') (hcontrol : ¬ c < ' ')
    (rest : List Char) :
    readQuoted (c :: rest) = (readQuoted rest).map fun (s, more) => (c :: s, 1 + more) := by
  rw [readQuoted, if_neg hquote, if_neg hslash, if_neg hcontrol]

theorem readQuoted_escape {c : Char} {text : List Char} {n : Nat}
    (h : readEscape text = .ok (c, n)) :
    readQuoted ('\\' :: text) =
      (readQuoted (text.drop n)).map fun (s, more) => (c :: s, 1 + n + more) := by
  rw [readQuoted, if_neg (by decide), if_pos rfl, h]

theorem hexadecimal_four : ∀ n < 32, (hexadecimal 4 n).toList =
    ['0', '0', Nat.digitChar (n / 16), Nat.digitChar (n % 16)] := by
  decide +kernel

theorem readHex_control {n : Nat} (h : n < 32) (rest : List Char) :
    readHex ('0' :: '0' :: Nat.digitChar (n / 16) :: Nat.digitChar (n % 16) :: rest) = .ok n := by
  have hdigits : ∀ n < 16, hexDigit? (Nat.digitChar n) = some n ∧
      (Nat.digitChar n).utf8Size = 1 := by decide +kernel
  obtain ⟨hhigh, hhighSize⟩ := hdigits (n / 16) (by omega)
  obtain ⟨hlow, hlowSize⟩ := hdigits (n % 16) (by omega)
  have hzero : hexDigit? '0' = some 0 ∧ ('0').utf8Size = 1 := by decide
  simp only [readHex, List.take, List.foldl, hhighSize, hlowSize, hzero, hhigh, hlow]
  rw [if_neg (by omega)]
  exact congrArg Except.ok (by omega)

theorem readEscape_control {n : Nat} (h : n < 32) (rest : List Char) :
    readEscape ('u' :: ((hexadecimal 4 n).toList ++ rest)) = .ok (Char.ofNat n, 5) := by
  rw [hexadecimal_four n h]
  simp only [List.cons_append, List.nil_append, readEscape, readHexEscape, readHex_control h]
  rw [if_neg (by omega), if_pos (by omega)]
  rfl

/-- A character of a quoted text, however it is written, is read back as itself. -/
theorem readQuoted_escapeChar (c : Char) (rest : List Char) :
    readQuoted ((Token.escapeChar c).toList ++ rest) =
      (readQuoted rest).map fun (s, more) =>
        (c :: s, (Token.escapeChar c).toList.length + more) := by
  unfold Token.escapeChar
  -- the seven characters that have a letter of their own
  iterate 7
    split
    · subst_vars
      exact readQuoted_escape rfl
  split
  · rename_i hcontrol
    have hlt : c.toNat < 32 := hcontrol
    have hdigits : ∃ a b, (hexadecimal 4 c.toNat).toList = ['0', '0', a, b] :=
      ⟨_, _, hexadecimal_four c.toNat hlt⟩
    have hread := readQuoted_escape (readEscape_control hlt rest)
    rw [Char.ofNat_toNat] at hread
    obtain ⟨a, b, hab⟩ := hdigits
    rw [hab] at hread
    rw [String.toList_append, hab]
    exact hread
  · rename_i hquote hslash _ _ _ _ _ hcontrol
    have htext : c.toString.toList = [c] := by simp
    rw [htext]
    exact readQuoted_plain hquote hslash hcontrol rest

theorem readQuoted_escaped (s rest : List Char) :
    readQuoted (s.flatMap (fun c => (Token.escapeChar c).toList) ++ '"' :: rest) =
      .ok (s, (s.flatMap fun c => (Token.escapeChar c).toList).length + 1) := by
  induction s with
  | nil => rw [List.flatMap_nil, List.nil_append, readQuoted, if_pos rfl]; rfl
  | cons c s ih =>
      rw [List.flatMap_cons, List.append_assoc, readQuoted_escapeChar, ih, Except.map,
        List.length_append, Nat.add_assoc]

/-! ## Numbers -/

/-- A character that numbers are made of. -/
def isNumberChar (c : Char) : Bool := c.isDigit || c ∈ ['.', 'e', 'E', '+', '-']

/-- A number in front of this text ends there. -/
def EndsNumber (rest : List Char) : Prop := ∀ c ∈ rest.head?, isNumberChar c = false

theorem EndsNumber.of_cons {c : Char} {rest : List Char} (h : EndsNumber (c :: rest)) :
    c.isDigit = false ∧ c ≠ '.' ∧ c ≠ 'e' ∧ c ≠ 'E' ∧ c ≠ '+' ∧ c ≠ '-' := by
  have hc := h c rfl
  simpa [isNumberChar, not_or] using hc

theorem endsNumber_nil : EndsNumber [] := nofun

theorem splitSign_cons (c : Char) (tail rest : List Char) :
    splitSign (c :: tail ++ rest) =
        ((splitSign (c :: tail)).1, (splitSign (c :: tail)).2 ++ rest) ∧
      (splitSign (c :: tail)).2.length ≤ (c :: tail).length := by
  by_cases hminus : c = '-'
  · subst hminus
    exact ⟨rfl, Nat.le_succ _⟩
  · by_cases hplus : c = '+'
    · subst hplus
      exact ⟨rfl, Nat.le_succ _⟩
    · have hsplit : ∀ tail, splitSign (c :: tail) = (false, c :: tail) := by
        intro tail
        unfold splitSign
        split
        · rename_i heq
          exact absurd (List.cons.inj heq).1 hminus
        · rename_i heq
          exact absurd (List.cons.inj heq).1 hplus
        · rfl
      rw [List.cons_append, hsplit, hsplit]
      exact ⟨rfl, Nat.le_refl _⟩

theorem length_of_map_eq_ok {x : Except Fault Token} {taken n : Nat} {t : Token}
    (h : x.map (·, taken) = .ok (t, n)) : n = taken := by
  cases x with
  | error fault => cases h
  | ok t' => exact (Prod.mk.inj (Except.ok.inj h)).2.symm

theorem readAfterWhole_of_ne_point {isNegative : Bool} {significand dropped taken : Nat}
    {c : Char} (h : c ≠ '.') (tail : List Char) :
    readAfterWhole isNegative significand dropped taken (c :: tail) =
      if c = 'e' ∨ c = 'E' ∨ 0 < dropped then
        readScaled isNegative significand dropped taken (c :: tail)
      else .ok (Number.wholeToken isNegative significand, taken) := by
  unfold readAfterWhole
  split
  · rename_i heq
    exact absurd (List.cons.inj heq).1 h
  · rename_i heq
    obtain ⟨rfl, rfl⟩ := List.cons.inj heq
    rfl
  · rename_i heq
    cases heq

theorem readUnsigned_of_digits (isNegative : Bool) {text digits : List Char}
    (htake : text.takeWhile Char.isDigit = digits) (hnil : digits ≠ [])
    (hzero : ∀ d tail, digits ≠ '0' :: d :: tail) :
    readUnsigned isNegative text = readAfterWhole isNegative (gather 0 digits).1
      (gather 0 digits).2.length digits.length (text.drop digits.length) := by
  simp only [readUnsigned]
  rw [htake]
  split
  · exact absurd rfl hnil
  · exact absurd rfl (hzero _ _)
  · rfl

theorem drop_digits_append (text rest : List Char) :
    (text ++ rest).drop (text.takeWhile Char.isDigit).length =
      text.drop (text.takeWhile Char.isDigit).length ++ rest :=
  List.drop_append_of_le_length (List.takeWhile_prefix _).length_le

section Numbers

variable {rest : List Char} (hends : EndsNumber rest)

include hends

theorem takeWhile_digits_append (text : List Char) :
    (text ++ rest).takeWhile Char.isDigit = text.takeWhile Char.isDigit := by
  have hrest : rest.takeWhile Char.isDigit = [] := by
    cases rest with
    | nil => rfl
    | cons c tail => rw [List.takeWhile_cons_of_neg (by simp [hends.of_cons.1])]
  rw [List.takeWhile_append, hrest, List.append_nil]
  split
  · rename_i hlength
    exact ((List.takeWhile_prefix _).eq_of_length hlength).symm
  · rfl

theorem readExponent_append {text : List Char} {e : Int} {n : Nat}
    (h : readExponent text = .ok (e, n)) :
    n ≤ text.length ∧ readExponent (text ++ rest) = .ok (e, n) := by
  cases text with
  | nil => cases h
  | cons c tail =>
      obtain ⟨happend, hle⟩ := splitSign_cons c tail rest
      simp only [readExponent] at h ⊢
      rw [happend]
      dsimp only
      rw [takeWhile_digits_append hends]
      split at h
      · cases h
      · rename_i hdigits
        obtain ⟨rfl, rfl⟩ := Prod.mk.inj (Except.ok.inj h)
        have hprefix := (List.takeWhile_prefix (l := (splitSign (c :: tail)).2)
          Char.isDigit).length_le
        refine ⟨by omega, ?_⟩
        rw [if_neg hdigits, List.length_append, List.length_append, Nat.add_sub_add_right]

theorem readScaled_append {isNegative : Bool} {significand taken : Nat} {exponent : Int}
    {text : List Char} {t : Token} {n : Nat}
    (h : readScaled isNegative significand exponent taken text = .ok (t, n)) :
    n ≤ taken + text.length ∧
      readScaled isNegative significand exponent taken (text ++ rest) = .ok (t, n) := by
  cases text with
  | nil =>
      have hrest : readScaled isNegative significand exponent taken rest =
          readScaled isNegative significand exponent taken [] := by
        cases rest with
        | nil => rfl
        | cons c tail =>
            obtain ⟨-, -, he, hE, -⟩ := hends.of_cons
            rw [readScaled, if_neg (by simp [he, hE]), readScaled]
      rw [readScaled] at h
      have hn := length_of_map_eq_ok h
      exact ⟨by omega, by rw [List.nil_append, hrest, readScaled, h]⟩
  | cons c tail =>
      rw [readScaled] at h
      rw [List.cons_append, readScaled, List.length_cons]
      split at h
      · rename_i hmark
        rw [if_pos hmark]
        cases hexponent : readExponent tail with
        | error fault =>
            rw [hexponent] at h
            cases h
        | ok p =>
            obtain ⟨more, length⟩ := p
            obtain ⟨hle, happend⟩ := readExponent_append hends hexponent
            rw [hexponent] at h
            rw [happend]
            have hn := length_of_map_eq_ok h
            exact ⟨by omega, h⟩
      · rename_i hmark
        rw [if_neg hmark]
        have hn := length_of_map_eq_ok h
        exact ⟨by omega, h⟩

theorem readAfterWhole_append {isNegative : Bool} {significand dropped taken : Nat}
    {text : List Char} {t : Token} {n : Nat}
    (h : readAfterWhole isNegative significand dropped taken text = .ok (t, n)) :
    n ≤ taken + text.length ∧
      readAfterWhole isNegative significand dropped taken (text ++ rest) = .ok (t, n) := by
  cases text with
  | nil =>
      have hrest : readAfterWhole isNegative significand dropped taken rest =
          if 0 < dropped then readScaled isNegative significand dropped taken rest
          else .ok (Number.wholeToken isNegative significand, taken) := by
        cases rest with
        | nil => rfl
        | cons c tail =>
            obtain ⟨-, hpoint, he, hE, -⟩ := hends.of_cons
            rw [readAfterWhole_of_ne_point hpoint]
            simp only [he, hE, false_or]
      rw [readAfterWhole] at h
      rw [List.nil_append, hrest]
      split at h
      · rename_i hdropped
        rw [if_pos hdropped]
        exact readScaled_append hends h
      · rename_i hdropped
        rw [if_neg hdropped]
        obtain ⟨rfl, rfl⟩ := Prod.mk.inj (Except.ok.inj h)
        exact ⟨Nat.le_add_right _ _, rfl⟩
  | cons c tail =>
      by_cases hpoint : c = '.'
      · subst hpoint
        simp only [readAfterWhole] at h
        rw [List.cons_append]
        simp only [readAfterWhole]
        rw [takeWhile_digits_append hends, drop_digits_append]
        split at h
        · cases h
        · rename_i hdigits
          rw [if_neg hdigits]
          obtain ⟨hle, happend⟩ := readScaled_append hends h
          have hprefix := (List.takeWhile_prefix (l := tail) Char.isDigit).length_le
          rw [List.length_drop] at hle
          exact ⟨by rw [List.length_cons]; omega, happend⟩
      · rw [readAfterWhole_of_ne_point hpoint] at h
        rw [List.cons_append, readAfterWhole_of_ne_point hpoint]
        split at h
        · rename_i hscaled
          rw [if_pos hscaled]
          exact readScaled_append hends h
        · rename_i hscaled
          rw [if_neg hscaled]
          obtain ⟨rfl, rfl⟩ := Prod.mk.inj (Except.ok.inj h)
          exact ⟨Nat.le_add_right _ _, rfl⟩

/-- A number is read from a text as from what the number in front of it is written with. -/
theorem readUnsigned_append {isNegative : Bool} {text : List Char} {t : Token} {n : Nat}
    (h : readUnsigned isNegative text = .ok (t, n)) :
    n ≤ text.length ∧ readUnsigned isNegative (text ++ rest) = .ok (t, n) := by
  generalize hdigits : text.takeWhile Char.isDigit = digits
  have hprefix := (List.takeWhile_prefix (l := text) Char.isDigit).length_le
  have hnil : digits ≠ [] := by
    rintro rfl
    simp only [readUnsigned, hdigits] at h
    cases h
  have hzero : ∀ d tail, digits ≠ '0' :: d :: tail := by
    rintro d tail rfl
    simp only [readUnsigned, hdigits] at h
    cases h
  rw [readUnsigned_of_digits isNegative hdigits hnil hzero] at h
  obtain ⟨hle, happend⟩ := readAfterWhole_append hends h
  have htake := (takeWhile_digits_append hends text).trans hdigits
  have hdrop := drop_digits_append text rest
  rw [hdigits] at hdrop hprefix
  rw [List.length_drop] at hle
  rw [readUnsigned_of_digits isNegative htake hnil hzero, hdrop]
  exact ⟨by omega, happend⟩

end Numbers

/-! ## Tokens that are numbers -/

/-- The token is a number; one that is not finite counts, though it is written as a word. -/
def Token.isNumber : Token → Bool
  | natural _ | negative _ | real _ => true
  | _ => false

theorem isSpace_of_isDigit {c : Char} (h : c.isDigit = true) : isSpace c = false := by
  cases hspace : isSpace c with
  | false => rfl
  | true =>
      simp only [isSpace, Bool.or_eq_true, decide_eq_true_eq] at hspace
      rcases hspace with ((rfl | rfl) | rfl) | rfl <;> cases h

theorem lexeme_of_isDigit {c : Char} (h : c.isDigit = true) (text : List Char) :
    lexeme c text = (readUnsigned false (c :: text)).map fun (t, n) => (t, n - 1) := by
  unfold lexeme
  split
  case h_12 => rw [if_pos h]
  all_goals cases h

theorem token_of_readWord {t t' : Token} {word text : List Char} {n : Nat}
    (h : readWord t word text = .ok (t', n)) : t' = t := by
  unfold readWord at h
  cases hgo : readWord.go word text with
  | error fault =>
      rw [hgo] at h
      cases h
  | ok u =>
      rw [hgo] at h
      exact (Prod.mk.inj (Except.ok.inj h)).1.symm

theorem token_of_readQuoted {text : List Char} {t : Token} {n : Nat}
    (h : ((readQuoted text).map fun (s, length) => (Token.text (String.ofList s), length)) =
      .ok (t, n)) : ∃ s, t = .text s := by
  cases hread : readQuoted text with
  | error fault =>
      rw [hread] at h
      cases h
  | ok p =>
      rw [hread] at h
      exact ⟨_, (Prod.mk.inj (Except.ok.inj h)).1.symm⟩

/-- A number starts with its sign or with a digit. -/
theorem isDigit_of_lexeme {c : Char} {text : List Char} {t : Token} {n : Nat}
    (h : lexeme c text = .ok (t, n)) (hnumber : t.isNumber = true) :
    c = '-' ∨ c.isDigit = true := by
  unfold lexeme at h
  split at h
  case h_7 | h_8 | h_9 =>
    obtain rfl := token_of_readWord h
    cases hnumber
  case h_10 =>
    obtain ⟨s, rfl⟩ := token_of_readQuoted h
    cases hnumber
  case h_11 => exact Or.inl rfl
  case h_12 =>
    split at h
    · rename_i hdigit
      exact Or.inr hdigit
    · cases h
  all_goals
    obtain ⟨rfl, -⟩ := Prod.mk.inj (Except.ok.inj h)
    cases hnumber

theorem lexeme_append {rest : List Char} (hends : EndsNumber rest) {c : Char} {text : List Char}
    {t : Token} {n : Nat} (h : lexeme c text = .ok (t, n)) (hnumber : t.isNumber = true) :
    n ≤ text.length ∧ lexeme c (text ++ rest) = .ok (t, n) := by
  rcases isDigit_of_lexeme h hnumber with rfl | hdigit
  · exact readUnsigned_append hends h
  · rw [lexeme_of_isDigit hdigit] at h ⊢
    cases hread : readUnsigned false (c :: text) with
    | error fault =>
        rw [hread] at h
        cases h
    | ok p =>
        obtain ⟨t', n'⟩ := p
        obtain ⟨hle, happend⟩ := readUnsigned_append hends hread
        rw [hread] at h
        obtain ⟨rfl, rfl⟩ := Prod.mk.inj (Except.ok.inj h)
        rw [List.length_cons] at hle
        rw [List.cons_append] at happend
        exact ⟨by omega, by rw [happend]; rfl⟩

theorem isSpace_of_tokens_eq_nil {text : List Char} (h : tokens text = []) :
    ∀ c ∈ text, isSpace c = true := by
  induction text with
  | nil => nofun
  | cons c rest ih =>
      by_cases hspace : isSpace c = true
      · rw [tokens_of_isSpace hspace] at h
        exact List.forall_mem_cons.mpr ⟨hspace, ih h⟩
      · rw [tokens, if_neg hspace] at h
        split at h <;> cases h

/-- Behind a number the text goes on, unless there is more of the number. -/
theorem tokens_append {rest : List Char} (hends : EndsNumber rest) {text : List Char} {t : Token}
    (h : tokens text = [t]) (hnumber : t.isNumber = true) :
    tokens (text ++ rest) = t :: tokens rest := by
  induction text with
  | nil => cases h.symm.trans tokens.eq_1
  | cons c text ih =>
      by_cases hspace : isSpace c = true
      · rw [tokens_of_isSpace hspace] at h
        rw [List.cons_append, tokens_of_isSpace hspace, ih h]
      · rw [tokens, if_neg hspace] at h
        split at h
        · obtain rfl := (List.cons.inj h).1
          cases hnumber
        · rename_i t' n hlexeme
          obtain ⟨rfl, hnil⟩ := List.cons.inj h
          obtain ⟨hle, happend⟩ := lexeme_append hends hlexeme hnumber
          rw [List.cons_append, tokens_of_lexeme (by simpa using hspace) happend,
            List.drop_append_of_le_length hle,
            tokens_spaces (isSpace_of_tokens_eq_nil hnil)]

/-! ## Natural numbers -/

theorem le_ofDigitChars (digits : List Char) (n : Nat) : n ≤ Nat.ofDigitChars 10 digits n := by
  induction digits generalizing n with
  | nil => exact Nat.le_refl n
  | cons c digits ih =>
      have hstep : Nat.ofDigitChars 10 (c :: digits) n =
          Nat.ofDigitChars 10 digits (10 * n + digitValue c) := rfl
      have := ih (10 * n + digitValue c)
      omega

theorem gather_of_lt {digits : List Char} {n : Nat}
    (h : Nat.ofDigitChars 10 digits n < UInt64.size) :
    gather n digits = (Nat.ofDigitChars 10 digits n, []) := by
  induction digits generalizing n with
  | nil => rfl
  | cons c digits ih =>
      have hstep : Nat.ofDigitChars 10 (c :: digits) n =
          Nat.ofDigitChars 10 digits (10 * n + digitValue c) := rfl
      rw [hstep] at h ⊢
      have hle := le_ofDigitChars digits (10 * n + digitValue c)
      rw [gather, if_pos (by omega), ih h]

/-- A number from one on has no leading zero. -/
theorem head_toDigits_ne_zero {n : Nat} (hpos : 0 < n) : (Nat.toDigits 10 n).head? ≠ some '0' := by
  induction n using Nat.strongRecOn with
  | ind n ih =>
      rw [Nat.toDigits_eq_if (by decide)]
      split
      · rename_i hlt
        have hdigits : ∀ m < 10, 0 < m → ([Nat.digitChar m].head? ≠ some '0') := by decide
        exact hdigits n hlt hpos
      · have hdiv : 0 < n / 10 := by omega
        rw [List.head?_append_of_ne_nil _ (by simp)]
        exact ih (n / 10) (by omega) hdiv

theorem tokens_natural {n : Nat} (h : n < UInt64.size) :
    tokens (Token.natural n).write.toList = [.natural n] := by
  have hwrite : (Token.natural n).write.toList = Nat.toDigits 10 n := by
    show n.repr.toList = _
    rw [Nat.repr_eq_ofList_toDigits, String.toList_ofList]
  have hvalue : Nat.ofDigitChars 10 (Nat.toDigits 10 n) 0 = n :=
    Nat.ofDigitChars_toDigits (by decide) (by decide)
  have hall : ∀ c ∈ Nat.toDigits 10 n, c.isDigit = true :=
    fun c hc => Nat.isDigit_of_mem_toDigits (by decide) (by decide) hc
  have hzero : ∀ d tail, Nat.toDigits 10 n ≠ '0' :: d :: tail := by
    intro d tail heq
    rcases Nat.eq_zero_or_pos n with rfl | hpos
    · cases heq
    · exact head_toDigits_ne_zero hpos (by rw [heq]; rfl)
  have hnil : Nat.toDigits 10 n ≠ [] := Nat.toDigits_ne_nil
  rw [hwrite]
  generalize Nat.toDigits 10 n = digits at hvalue hall hzero hnil
  cases digits with
  | nil => exact absurd rfl hnil
  | cons c tail =>
      have hgather := gather_of_lt (hvalue.symm ▸ h)
      have htake : (c :: tail).takeWhile Char.isDigit = c :: tail :=
        List.takeWhile_eq_self_iff.mpr hall
      have hread : readUnsigned false (c :: tail) = .ok (.natural n, (c :: tail).length) := by
        rw [readUnsigned_of_digits false htake hnil hzero, hgather, List.drop_length, hvalue]
        rfl
      have hdigit := hall c (by simp)
      have hlexeme : lexeme c tail = .ok (.natural n, tail.length) := by
        rw [lexeme_of_isDigit hdigit, hread]
        rfl
      rw [tokens_of_lexeme (isSpace_of_isDigit hdigit) hlexeme, List.drop_length, tokens]

/-! ## Reading tokens back -/

namespace Token

/-- The token is a bracket, a brace, a comma or a colon. -/
def isMark : Token → Bool
  | openList | closeList | openObject | closeObject | comma | colon => true
  | _ => false

theorem isNumber_of_isMark {t : Token} (h : t.isMark = true) : t.isNumber = false := by
  cases t <;> first | rfl | cases h

/-- The token that is read where this one is written. -/
def reread (t : Token) : Token := (tokens t.write.toList).head?.getD t

/-- Where the token is written it is read, and then what stands behind it. -/
def Rereads (t : Token) : Prop :=
  ∀ rest, (t.isNumber = true → EndsNumber rest) →
    tokens (t.write.toList ++ rest) = t.reread :: tokens rest

theorem rereads_as {t t' : Token}
    (h : ∀ rest, (t.isNumber = true → EndsNumber rest) →
      tokens (t.write.toList ++ rest) = t' :: tokens rest) : t.Rereads ∧ t.reread = t' := by
  have hreread : t.reread = t' := by
    have halone := h [] fun _ => endsNumber_nil
    rw [List.append_nil] at halone
    rw [reread, halone]
    rfl
  exact ⟨fun rest hends => hreread ▸ h rest hends, hreread⟩

theorem write_mark {t : Token} (h : t.isMark = true) :
    ∃ c, t.write.toList = [c] ∧ isSpace c = false ∧ ∀ rest, lexeme c rest = .ok (t, 0) := by
  cases t with
  | openList => exact ⟨'[', by decide, by decide, fun _ => rfl⟩
  | closeList => exact ⟨']', by decide, by decide, fun _ => rfl⟩
  | openObject => exact ⟨'\x7b', by decide, by decide, fun _ => rfl⟩
  | closeObject => exact ⟨'\x7d', by decide, by decide, fun _ => rfl⟩
  | comma => exact ⟨',', by decide, by decide, fun _ => rfl⟩
  | colon => exact ⟨':', by decide, by decide, fun _ => rfl⟩
  | null | boolean | natural | negative | real | text | broken => cases h

theorem mark_rereads {t : Token} (h : t.isMark = true) : t.Rereads ∧ t.reread = t := by
  refine rereads_as fun rest _ => ?_
  obtain ⟨c, hwrite, hspace, hlexeme⟩ := write_mark h
  rw [hwrite]
  exact tokens_of_lexeme hspace (hlexeme rest)

theorem null_rereads : null.Rereads ∧ null.reread = null := by
  refine rereads_as fun rest _ => ?_
  have hwrite : null.write.toList = ['n', 'u', 'l', 'l'] := by decide
  have hlexeme : lexeme 'n' (['u', 'l', 'l'] ++ rest) = .ok (null, 3) :=
    readWord_append null ['u', 'l', 'l'] rest
  rw [hwrite]
  exact tokens_of_lexeme (by decide) hlexeme

theorem write_text (s : String) :
    (text s).write.toList = '"' :: (s.toList.flatMap (fun c => (escapeChar c).toList) ++ ['"']) := by
  have hquote : "\"".toList = ['"'] := by decide
  rw [write, String.toList_append, String.toList_append, String.toList_join, hquote,
    List.flatMap_map]
  rfl

theorem text_rereads (s : String) : (text s).Rereads ∧ (text s).reread = text s := by
  refine rereads_as fun rest _ => ?_
  have hlexeme : lexeme '"' (s.toList.flatMap (fun c => (escapeChar c).toList) ++ '"' :: rest) =
      .ok (text s, (s.toList.flatMap fun c => (escapeChar c).toList).length + 1) := by
    have hread := readQuoted_escaped s.toList rest
    rw [lexeme, hread, Except.map]
    dsimp only
    rw [String.ofList_toList]
  rw [write_text, List.cons_append, List.append_assoc, List.singleton_append,
    tokens_of_lexeme (by decide) hlexeme, List.drop_length_add_append, List.drop_succ_cons,
    List.drop_zero]

theorem natural_rereads {n : Nat} (h : n < UInt64.size) :
    (natural n).Rereads ∧ (natural n).reread = natural n :=
  rereads_as fun _ hends => tokens_append (hends rfl) (tokens_natural h) rfl

theorem real_rereads_of_not_finite {d : Double} (h : d.isFinite = false) :
    (real d).Rereads ∧ (real d).reread = null := by
  refine rereads_as fun rest _ => ?_
  have hwrite : (real d).write = null.write := by simp [write, h]
  have hnull := null_rereads.1 rest nofun
  rwa [null_rereads.2, ← hwrite] at hnull

theorem readText_ofToken {α : Type} {take : Token → Except Fault α} {chars : List Char} {a : α}
    (h : (Reader.ofToken take).readText chars = .ok a) :
    ∃ t, tokens chars = [t] ∧ take t = .ok a := by
  unfold Reader.readText at h
  cases htokens : tokens chars with
  | nil =>
      rw [htokens] at h
      cases h
  | cons t rest =>
      have hread : (Reader.ofToken take).read (t :: rest) = (take t).map (·, rest) := rfl
      rw [htokens, hread] at h
      cases htake : take t with
      | error fault =>
          rw [htake] at h
          cases h
      | ok a' =>
          rw [htake] at h
          cases rest with
          | nil =>
              obtain rfl := Except.ok.inj h
              exact ⟨t, rfl, htake⟩
          | cons t' rest => cases h

/-- A double whose text reads back as this double does so within a longer text. -/
theorem real_rereads {d : Double} (h : Reader.double.readText (real d).write.toList = .ok d) :
    (real d).Rereads ∧ ∀ rest, Reader.double.read ((real d).reread :: rest) = .ok (d, rest) := by
  unfold Reader.double at h
  obtain ⟨t, htokens, htake⟩ := readText_ofToken h
  have hnumber : t.isNumber = true := by
    cases t <;> first | rfl | cases htake
  obtain ⟨hrereads, hreread⟩ := rereads_as (t := real d) fun rest hends =>
    tokens_append (hends rfl) htokens hnumber
  refine ⟨hrereads, fun rest => ?_⟩
  have hread : Reader.double.read (t :: rest) = (Except.ok d).map (·, rest) :=
    congrArg (Except.map (·, rest)) htake
  rw [hreread, hread]
  rfl

end Token

/-! ## Reading documents back -/

/-- The text is that of the document's tokens with white space around them. -/
inductive Spells : Document → List Char → Prop
  | done {space : List Char} (h : ∀ c ∈ space, isSpace c = true) : Spells [] space
  | next {space text : List Char} {t : Token} {d : Document}
      (h : ∀ c ∈ space, isSpace c = true) (htext : Spells d text) :
      Spells (t :: d) (space ++ (t.write.toList ++ text))

theorem spells_compact (d : Document) : Spells d d.compact.toList := by
  rw [Document.compact, String.toList_join, List.flatMap_map]
  induction d with
  | nil => exact .done nofun
  | cons t d ih =>
      have hnext : Spells (t :: d) ([] ++ (t.write.toList ++ d.flatMap fun t => t.write.toList)) :=
        .next nofun ih
      exact hnext

namespace Document

/-- The tokens that are read where the document is written. -/
def reread (d : Document) : List Token := d.map Token.reread

/-- The tokens can be told apart where they are written, however close. -/
structure Legible (d : Document) : Prop where
  rereads : ∀ t ∈ d, t.Rereads
  apart : d.IsChain fun s t => s.isNumber = true → t.isNumber = false

namespace Legible

variable {d e : Document} {t : Token}

theorem single (h : t.Rereads) : Legible [t] :=
  ⟨fun _ ht' => List.mem_singleton.mp ht' ▸ h, List.isChain_singleton _⟩

theorem cons (ht : t.Rereads) (hnumber : t.isNumber = false) (h : Legible d) :
    Legible (t :: d) := by
  refine ⟨List.forall_mem_cons.mpr ⟨ht, h.rereads⟩, List.isChain_cons.mpr ⟨?_, h.apart⟩⟩
  intro t' _ hnumber'
  rw [hnumber] at hnumber'
  cases hnumber'

/-- A document goes on with a mark. -/
theorem append (hd : Legible d) (ht : t.isMark = true) (he : Legible (t :: e)) :
    Legible (d ++ t :: e) := by
  refine ⟨List.forall_mem_append.mpr ⟨hd.rereads, he.rereads⟩, ?_⟩
  rw [List.isChain_append]
  refine ⟨hd.apart, he.apart, fun _ _ t' ht' _ => ?_⟩
  obtain rfl := Option.some.inj ht'
  exact Token.isNumber_of_isMark ht

theorem mark (ht : t.isMark = true) (h : Legible d) : Legible (t :: d) :=
  h.cons (Token.mark_rereads ht).1 (Token.isNumber_of_isMark ht)

theorem separated {items : List Document} (h : ∀ d ∈ items, Legible d) :
    Legible (Document.separated items) := by
  fun_induction Document.separated items with
  | case1 => exact ⟨nofun, List.isChain_nil⟩
  | case2 d => exact h d (by simp)
  | case3 d rest _ ih =>
      have hrest : Legible (Document.separated rest) :=
        ih fun d' hd' => h d' (List.mem_cons_of_mem _ hd')
      exact (h d (by simp)).append rfl (hrest.mark rfl)

theorem list {items : List Document} (h : ∀ d ∈ items, Legible d) :
    Legible (Document.list items) :=
  ((separated h).mark rfl).append rfl (.single (Token.mark_rereads rfl).1)

theorem object {members : List (String × Document)} (h : ∀ m ∈ members, Legible m.2) :
    Legible (Document.object members) := by
  refine ((separated ?_).mark rfl).append rfl (.single (Token.mark_rereads rfl).1)
  intro d hd
  obtain ⟨⟨key, d'⟩, hmem, rfl⟩ := List.mem_map.mp hd
  exact ((h _ hmem).mark rfl).cons (Token.text_rereads key).1 rfl

end Legible

end Document

theorem EndsNumber.spaces {space text : List Char} (h : ∀ c ∈ space, isSpace c = true)
    (htext : EndsNumber text) : EndsNumber (space ++ text) := by
  cases space with
  | nil => exact htext
  | cons c space =>
      intro c' hc'
      obtain rfl := Option.some.inj hc'
      have hspace := h c (by simp)
      simp only [isSpace, Bool.or_eq_true, decide_eq_true_eq] at hspace
      rcases hspace with ((rfl | rfl) | rfl) | rfl <;> decide

theorem endsNumber_write {t : Token} (hnumber : t.isNumber = false) (ht : t.Rereads)
    (rest : List Char) : EndsNumber (t.write.toList ++ rest) := by
  have hhead : ∃ c tail, t.write.toList = c :: tail ∧ isNumberChar c = false := by
    cases t with
    | openList => exact ⟨'[', [], by decide, by decide⟩
    | closeList => exact ⟨']', [], by decide, by decide⟩
    | openObject => exact ⟨'\x7b', [], by decide, by decide⟩
    | closeObject => exact ⟨'\x7d', [], by decide, by decide⟩
    | comma => exact ⟨',', [], by decide, by decide⟩
    | colon => exact ⟨':', [], by decide, by decide⟩
    | null => exact ⟨'n', ['u', 'l', 'l'], by decide, by decide⟩
    | boolean b =>
        cases b with
        | true => exact ⟨'t', ['r', 'u', 'e'], by decide, by decide⟩
        | false => exact ⟨'f', ['a', 'l', 's', 'e'], by decide, by decide⟩
    | text s => exact ⟨'"', _, Token.write_text s, by decide⟩
    | broken quoted fault =>
        -- nothing is written, so nothing is read
        have hnothing := ht [] fun _ => endsNumber_nil
        cases hnothing.symm.trans tokens.eq_1
    | natural | negative | real => cases hnumber
  obtain ⟨c, tail, hwrite, hc⟩ := hhead
  rw [hwrite]
  intro c' hc'
  obtain rfl := Option.some.inj hc'
  exact hc

/-- However the tokens of a legible document are laid out, they are read back. -/
theorem tokens_of_spells {d : Document} (hd : d.Legible) {text : List Char} (h : Spells d text) :
    tokens text = d.reread := by
  induction h with
  | done h =>
      have hspaces := tokens_spaces h []
      rw [List.append_nil] at hspaces
      rw [hspaces, tokens]
      rfl
  | @next space text t d h htext ih =>
      obtain ⟨ht, hd'⟩ := List.forall_mem_cons.mp hd.rereads
      obtain ⟨hnext, hapart⟩ := List.isChain_cons.mp hd.apart
      have hends : t.isNumber = true → EndsNumber text := by
        intro hnumber
        cases htext with
        | done hspace =>
            have hrest := EndsNumber.spaces hspace endsNumber_nil
            rwa [List.append_nil] at hrest
        | @next _ _ t' _ hspace _ =>
            exact .spaces hspace
              (endsNumber_write (hnext t' rfl hnumber) (hd' t' (by simp)) _)
      rw [tokens_spaces h, ht text hends, ih ⟨hd', hapart⟩]
      rfl

end EventMixing.Json
