/-!
# The first failure on the way through a list

A list is gone through in order, each element is checked, and the first that fails ends it.
`FailsFirst` says which one that is, after which others and with what failure; by `cons_iff`
it follows the list as such a walk does, so that walks are known by induction. In a list that
ascends, the elements that come before it are those below it (`exists_before_iff`).
-/

namespace EventMixing

variable {α β ε : Type}

/-- Of the elements of a list `x` is the first that fails the check, with failure `e` and
after the elements `before`. -/
structure FailsFirst (check : α → Except ε β) (xs before : List α) (x : α) (e : ε) : Prop where
  split : ∃ after, xs = before ++ x :: after
  passed : ∀ y ∈ before, ∃ b, check y = .ok b
  failed : check x = .error e

namespace FailsFirst

variable {check : α → Except ε β} {xs before : List α} {x y : α} {e e' : ε}

theorem mem (h : FailsFirst check xs before x e) : x ∈ xs := by
  obtain ⟨after, rfl⟩ := h.split
  exact List.mem_append_right _ List.mem_cons_self

theorem not_nil : ¬ FailsFirst check [] before x e := fun h => nomatch h.mem

/-- A list fails at its first element, or after it. -/
theorem cons_iff :
    FailsFirst check (y :: xs) before x e ↔
      (before = [] ∧ x = y ∧ check y = .error e) ∨
      ∃ b rest, check y = .ok b ∧ before = y :: rest ∧ FailsFirst check xs rest x e := by
  constructor
  · rintro ⟨⟨after, hsplit⟩, hpassed, hfailed⟩
    cases before with
    | nil =>
        obtain ⟨rfl, -⟩ := List.cons.inj hsplit
        exact Or.inl ⟨rfl, rfl, hfailed⟩
    | cons z rest =>
        obtain ⟨rfl, hrest⟩ := List.cons.inj hsplit
        rw [List.forall_mem_cons] at hpassed
        obtain ⟨⟨b, hb⟩, hrestPassed⟩ := hpassed
        exact Or.inr ⟨b, rest, hb, rfl, ⟨after, hrest⟩, hrestPassed, hfailed⟩
  · rintro (⟨rfl, rfl, hfailed⟩ | ⟨b, rest, hb, rfl, ⟨after, rfl⟩, hpassed, hfailed⟩)
    · exact ⟨⟨xs, rfl⟩, nofun, hfailed⟩
    · exact ⟨⟨after, rfl⟩, List.forall_mem_cons.mpr ⟨⟨b, hb⟩, hpassed⟩, hfailed⟩

theorem cons_iff_of_ok {b : β} (hy : check y = .ok b) :
    FailsFirst check (y :: xs) before x e ↔
      ∃ rest, before = y :: rest ∧ FailsFirst check xs rest x e := by
  simp [cons_iff, hy]

theorem cons_iff_of_error (hy : check y = .error e') :
    FailsFirst check (y :: xs) before x e ↔ before = [] ∧ x = y ∧ e' = e := by
  simp [cons_iff, hy]

/-- In an ascending list the first element that fails is the one below which none does. -/
theorem exists_before_iff (rank : α → Nat) (h : xs.Pairwise (rank · < rank ·)) :
    (∃ before, FailsFirst check xs before x e) ↔
      x ∈ xs ∧ check x = .error e ∧
        ∀ y ∈ xs, rank y < rank x → ∃ b, check y = .ok b := by
  constructor
  · rintro ⟨before, hfirst⟩
    refine ⟨hfirst.mem, hfirst.failed, fun y hy hlt => ?_⟩
    obtain ⟨after, rfl⟩ := hfirst.split
    obtain ⟨-, hafter, -⟩ := List.pairwise_append.mp h
    rcases List.mem_append.mp hy with hbefore | hrest
    · exact hfirst.passed y hbefore
    · rcases List.mem_cons.mp hrest with rfl | hlater
      · exact absurd hlt (Nat.lt_irrefl _)
      · exact absurd hlt (Nat.lt_asymm ((List.pairwise_cons.mp hafter).1 y hlater))
  · rintro ⟨hmem, hfailed, hbelow⟩
    obtain ⟨before, after, rfl⟩ := List.append_of_mem hmem
    obtain ⟨-, -, hbefore⟩ := List.pairwise_append.mp h
    refine ⟨before, ⟨after, rfl⟩, fun y hy => ?_, hfailed⟩
    exact hbelow y (List.mem_append_left _ hy) (hbefore y hy x List.mem_cons_self)

end FailsFirst

end EventMixing
