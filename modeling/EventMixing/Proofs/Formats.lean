import EventMixing.Dataset

/-!
# The letters of an extension

The format of a file is that of its extension in lower case. Of all characters only the
letters themselves, small or capital, have the letters of `csv` and `parquet` for their lower
case, so `FileFormat.ofPath?_eq_some_iff` needs no table of characters.
-/

namespace EventMixing

namespace Case

/-- A small letter that no other letter than its own capital has for a lower case. The kelvin
sign is one more `k`. -/
def IsPlain (t : Char) : Prop := 'a'.toNat ≤ t.toNat ∧ t.toNat ≤ 'z'.toNat ∧ t ≠ 'k'

instance (t : Char) : Decidable (IsPlain t) := inferInstanceAs (Decidable (_ ∧ _ ∧ _))

def IsCapital (c : Char) : Prop := 'A'.toNat ≤ c.toNat ∧ c.toNat ≤ 'Z'.toNat

theorem lowerChar_of_isCapital {c : Char} (hc : IsCapital c) : lowerChar c = c.toLower := by
  have hall : ∀ n < 26, lowerChar (Char.ofNat ('A'.toNat + n)) =
      (Char.ofNat ('A'.toNat + n)).toLower := by
    decide +kernel
  have hz : 'Z'.toNat < 'A'.toNat + 26 := by decide
  obtain ⟨hle, hge⟩ := hc
  have h := hall (c.toNat - 'A'.toNat) (by omega)
  rwa [Nat.add_sub_cancel' hle, Char.ofNat_toNat] at h

theorem toLower_of_not_isCapital {c : Char} (hc : ¬ IsCapital c) : c.toLower = c :=
  dif_neg fun h => hc ⟨UInt32.le_iff_toNat_le.mp h.1, UInt32.le_iff_toNat_le.mp h.2⟩

/-- The rows of the table but for the first lie behind the small letters and lead there, or to
the `k`. -/
theorem lowerRuns_apart : ∀ r ∈ lowerRuns, r.first = 'A'.toNat ∧ r.last = 'Z'.toNat ∨
    'z'.toNat < r.first ∧ ('z'.toNat < (r.first : Int) + r.shift ∨
      r.first = r.last ∧ (r.first : Int) + r.shift = 'k'.toNat) := by
  decide +kernel

theorem toNat_ofNat (n : Nat) : (Char.ofNat n).toNat = n ∨ (Char.ofNat n).toNat = 0 := by
  by_cases h : n.isValidChar
  · exact Or.inl (by rw [Char.ofNat, dif_pos h]; rfl)
  · exact Or.inr (by rw [Char.ofNat, dif_neg h]; rfl)

/-- What is no capital stays as it is, or lies behind the small letters and does not become one
of them, the kelvin sign apart. -/
theorem lowerChar_of_not_isCapital {c : Char} (hc : ¬ IsCapital c) : lowerChar c = c ∨
    'z'.toNat < c.toNat ∧ ((lowerChar c).toNat = 0 ∨ 'z'.toNat < (lowerChar c).toNat ∨
      lowerChar c = 'k') := by
  unfold lowerChar
  split
  · rename_i r hr
    have hin : r.first ≤ c.toNat ∧ c.toNat ≤ r.last := by
      have := Array.find?_some hr
      simp only [Run.contains, Bool.and_eq_true, decide_eq_true_eq] at this
      exact this.1
    rcases lowerRuns_apart r (Array.mem_of_find?_eq_some hr) with
      ⟨hfirst, hlast⟩ | ⟨hbehind, hfar | ⟨hone, hk⟩⟩
    · exact absurd ⟨hfirst ▸ hin.1, hlast ▸ hin.2⟩ hc
    · refine Or.inr ⟨by omega, ?_⟩
      have hfar' : 'z'.toNat < (c.toNat + r.shift).toNat := by omega
      rcases toNat_ofNat (c.toNat + r.shift).toNat with h | h
      · exact Or.inr (Or.inl (by rwa [h]))
      · exact Or.inl h
    · have hk' : (c.toNat + r.shift).toNat = 'k'.toNat := by omega
      rw [hk']
      exact Or.inr ⟨by omega, Or.inr (Or.inr rfl)⟩
  · exact Or.inl rfl

theorem lowerChar_eq_iff {c t : Char} (ht : IsPlain t) : lowerChar c = t ↔ c.toLower = t := by
  by_cases hc : IsCapital c
  · rw [lowerChar_of_isCapital hc]
  · rw [toLower_of_not_isCapital hc]
    rcases lowerChar_of_not_isCapital hc with h | ⟨hbehind, hlower⟩
    · rw [h]
    · obtain ⟨hle, hge, hk⟩ := ht
      have ha : 0 < 'a'.toNat := by decide
      refine iff_of_false ?_ ?_
      · rintro rfl
        rcases hlower with h | h | h
        · omega
        · omega
        · exact hk h
      · rintro rfl
        omega

theorem lowerFrom_eq_iff {target : List Char} (ht : ∀ t ∈ target, IsPlain t)
    (before text : List Char) :
    lowerFrom before text = target ↔ text.map Char.toLower = target := by
  induction text generalizing before target with
  | nil => rfl
  | cons c rest ih =>
      have hhead : ∀ {d ds}, d :: ds = target → IsPlain d :=
        fun heq => ht _ (heq ▸ List.mem_cons_self)
      rw [lowerFrom, List.map_cons]
      split
      · -- neither small sigma is plain
        rename_i hc
        subst hc
        refine iff_of_false (fun heq => ?_) fun heq => absurd (hhead heq) (by decide)
        have hsigma := hhead heq
        split at hsigma
        · exact absurd hsigma (by decide)
        · exact absurd hsigma (by decide)
      · split
        · -- nor is the dot above, which is left behind the letter
          rename_i hc
          subst hc
          refine iff_of_false (fun heq => ?_) fun heq => absurd (hhead heq) (by decide)
          have hdot : IsPlain '\u0307' := ht _ (heq ▸ List.mem_cons_of_mem _ List.mem_cons_self)
          exact absurd hdot (by decide)
        · cases target with
          | nil => simp
          | cons t target =>
              have ht' := List.forall_mem_cons.mp ht
              rw [List.cons_append, List.nil_append, List.cons.injEq, List.cons.injEq,
                lowerChar_eq_iff ht'.1, ih ht'.2]

end Case

/-- The extension that a format is known by. -/
def FileFormat.extension : FileFormat → String
  | csv => "csv"
  | parquet => "parquet"

theorem FileFormat.ofExtension?_eq_some_iff {ext : String} {format : FileFormat} :
    ofExtension? ext = some format ↔ ext = format.extension := by
  constructor
  · intro h
    unfold ofExtension? at h
    split at h
    · obtain rfl := Option.some.inj h
      rfl
    · obtain rfl := Option.some.inj h
      rfl
    · cases h
  · rintro rfl
    cases format <;> rfl

theorem FileFormat.isPlain_of_mem (format : FileFormat) :
    ∀ t ∈ format.extension.toList, Case.IsPlain t := by
  have hall : (format.extension.toList.all fun t => Case.IsPlain t) = true := by
    cases format <;> decide
  exact fun t ht => of_decide_eq_true (List.all_eq_true.mp hall t ht)

/-- A path asks for a format by its extension, in letters of any case. -/
theorem FileFormat.ofPath?_eq_some_iff {path : Path} {format : FileFormat} :
    ofPath? path = some format ↔ ∃ ext, path.extension? = some ext ∧
      ext.toList.map Char.toLower = format.extension.toList := by
  have hlower : ∀ ext : String, String.ofList (lowerCase ext.toList) = format.extension ↔
      ext.toList.map Char.toLower = format.extension.toList := by
    intro ext
    rw [← Case.lowerFrom_eq_iff format.isPlain_of_mem [], ← String.toList_inj,
      String.toList_ofList, lowerCase]
  rw [ofPath?, ofExtension?_eq_some_iff, extensionOf, hlower]
  cases path.extension? with
  | none => cases format <;> simp [extension]
  | some ext => simp

end EventMixing
