import EventMixing.Variable

/-!
# Names of variables

Names are looked up in lower case and without the blanks around them. Lower case and
blanks are decided by tables of all scripts; of these only the first rows reach into
ASCII, so that a text of plain characters is left as it is, and a variable is found by its
own name.
-/

namespace EventMixing

/-- A character of ASCII that is neither a capital letter nor a blank. -/
def IsPlain (c : Char) : Prop :=
  0x21 ≤ c.toNat ∧ c.toNat < 0x7F ∧ ¬ (0x41 ≤ c.toNat ∧ c.toNat ≤ 0x5A)

instance (c : Char) : Decidable (IsPlain c) := inferInstanceAs (Decidable (_ ∧ _ ∧ _))

theorem lowerRuns_ascii :
    ∀ r ∈ Case.lowerRuns, (r.first = 0x41 ∧ r.last = 0x5A) ∨ 0x7F ≤ r.first := by
  decide +kernel

theorem blanks_ascii : ∀ r ∈ Blank.ranges, r.2 < 0x21 ∨ 0x7F ≤ r.1 := by
  decide +kernel

theorem not_contains_of_isPlain {c : Char} (h : IsPlain c) {r : Case.Run}
    (hr : r ∈ Case.lowerRuns) : r.contains c.toNat = false := by
  obtain ⟨-, hlt, hcapital⟩ := h
  have hrun := lowerRuns_ascii r hr
  unfold Case.Run.contains
  rw [Bool.and_eq_false_iff, Bool.and_eq_false_iff, decide_eq_false_iff_not,
    decide_eq_false_iff_not]
  clear hr
  omega

theorem lowerChar_of_isPlain {c : Char} (h : IsPlain c) : Case.lowerChar c = c := by
  unfold Case.lowerChar
  split
  · rename_i r hfind
    have hcontains := Array.find?_some hfind
    rw [not_contains_of_isPlain h (Array.mem_of_find?_eq_some hfind)] at hcontains
    cases hcontains
  · rfl

theorem lowerCase_of_isPlain {text : List Char} (h : ∀ c ∈ text, IsPlain c) :
    lowerCase text = text := by
  have hfrom : ∀ before, Case.lowerFrom before text = text := by
    induction text with
    | nil => intro before; rfl
    | cons c rest ih =>
        intro before
        obtain ⟨hc, hrest⟩ := List.forall_mem_cons.mp h
        have hsigma : c ≠ 'Σ' := by
          rintro rfl
          exact absurd hc.2.1 (by decide)
        have hdot : c ≠ 'İ' := by
          rintro rfl
          exact absurd hc.2.1 (by decide)
        rw [Case.lowerFrom, if_neg hsigma, if_neg hdot, lowerChar_of_isPlain hc, ih hrest]
        rfl
  exact hfrom []

theorem isBlank_of_isPlain {c : Char} (h : IsPlain c) : isBlank c = false := by
  obtain ⟨hge, hlt, -⟩ := h
  unfold isBlank CharRanges.contains
  rw [Array.any_eq_false']
  intro r hr hcontains
  rw [Bool.and_eq_true, decide_eq_true_eq, decide_eq_true_eq] at hcontains
  have hrange := blanks_ascii r hr
  clear hr
  omega

theorem trimBlanks_of_isPlain {text : List Char} (h : ∀ c ∈ text, IsPlain c) :
    trimBlanks text = text := by
  have hdrop : ∀ text : List Char, (∀ c ∈ text, IsPlain c) → text.dropWhile isBlank = text := by
    intro text h
    cases text with
    | nil => rfl
    | cons c rest => rw [List.dropWhile_cons_of_neg (by simp [isBlank_of_isPlain (h c (by simp))])]
  rw [trimBlanks, hdrop text h, hdrop text.reverse fun c hc => h c (List.mem_reverse.mp hc),
    List.reverse_reverse]

theorem isPlain_name (v : Variable) : ∀ c ∈ v.name.toList, IsPlain c := by
  have hall : (v.name.toList.all fun c => decide (IsPlain c)) = true := by
    cases v <;> decide +kernel
  exact fun c hc => of_decide_eq_true (List.all_eq_true.mp hall c hc)

theorem ofName?_name (v : Variable) : Variable.ofName? v.name = some v := by
  rw [Variable.ofName?, trimBlanks_of_isPlain (isPlain_name v),
    lowerCase_of_isPlain (isPlain_name v), String.ofList_toList]
  cases v <;> rfl

end EventMixing
