import Mathlib.Data.String.Basic
import EventMixing.Files.Path

/-!
# The components of a path

The components of a path are the pieces of its characters between slashes
(`Path.components_eq`). Those that are empty or a dot lead nowhere; `Path.steps` are the others.
-/

namespace EventMixing.Path

open String (ofList utf8Len splitOn splitOnAux)

/-- A search for slashes gives back the pieces found so far, and then those of the rest, the
first of which goes on where it has come to. -/
theorem splitOnAux_slash (before passed rest : List Char) (found : List String) :
    splitOnAux (ofList (before ++ passed ++ rest)) "/" ⟨utf8Len before⟩
        ⟨utf8Len before + utf8Len passed⟩ 0 found =
      found.reverse ++ (List.splitOnPPrepend (· == '/') rest passed.reverse).map ofList := by
  induction rest generalizing before passed found with
  | nil =>
      have hend : String.Pos.Raw.atEnd (ofList (before ++ passed ++ []))
          ⟨utf8Len before + utf8Len passed⟩ = true := by
        rw [String.atEnd_iff, String.rawEndPos_ofList, List.append_nil, String.utf8Len_append]
        exact Nat.le_refl _
      rw [splitOnAux, if_pos hend, String.extract_of_valid, List.splitOnPPrepend,
        List.reverse_reverse, List.reverse_cons]
      rfl
  | cons c rest ih =>
      have hend : ¬ String.Pos.Raw.atEnd (ofList (before ++ passed ++ c :: rest))
          ⟨utf8Len before + utf8Len passed⟩ = true := by
        have := c.utf8Size_pos
        rw [String.atEnd_iff, String.rawEndPos_ofList, String.utf8Len_append,
          String.utf8Len_append, String.utf8Len_cons, String.Pos.Raw.mk_le_mk]
        omega
      have hget : String.Pos.Raw.get (ofList (before ++ passed ++ c :: rest))
          ⟨utf8Len before + utf8Len passed⟩ = c := by
        rw [← String.utf8Len_append, String.get_of_valid]
        rfl
      have hnext : String.Pos.Raw.next (ofList (before ++ passed ++ c :: rest))
          ⟨utf8Len before + utf8Len passed⟩ = ⟨utf8Len before + utf8Len passed + c.utf8Size⟩ := by
        rw [← String.utf8Len_append, String.next_of_valid]
      have hslash : String.Pos.Raw.get "/" 0 = '/' := by decide
      have hslashNext : String.Pos.Raw.next "/" 0 = ⟨1⟩ := by decide
      have hslashEnd : String.Pos.Raw.atEnd "/" ⟨1⟩ = true := by decide
      rw [splitOnAux, if_neg hend, hget, hslash, List.splitOnPPrepend_cons_eq_if]
      dsimp only
      rw [hslashNext, if_pos hslashEnd]
      split
      · -- a slash ends the piece, and the next one starts behind it
        rename_i hc
        obtain rfl : c = '/' := by simpa using hc
        rw [hnext]
        have hrest := ih (before ++ passed ++ ['/']) [] (ofList passed :: found)
        have hsize : Char.utf8Size '/' = 1 := by decide
        simp only [String.utf8Len_append, String.utf8Len_cons, String.utf8Len_nil, hsize,
          List.append_nil, List.append_assoc, List.singleton_append, Nat.zero_add, Nat.add_zero,
          List.reverse_nil, List.reverse_cons, List.map_cons, List.reverse_reverse] at hrest ⊢
        have hpiece : String.Pos.Raw.extract (ofList (before ++ (passed ++ '/' :: rest)))
            ⟨utf8Len before⟩
            (String.Pos.Raw.unoffsetBy ⟨utf8Len before + utf8Len passed + 1⟩ ⟨1⟩) =
              ofList passed := by
          rw [← List.append_assoc]
          exact String.extract_of_valid before passed ('/' :: rest)
        rw [hpiece, Nat.add_assoc, hrest, List.splitOnP_eq_splitOnPPrepend]
      · have hrest := ih before (passed ++ [c]) found
        have hback : String.Pos.Raw.unoffsetBy ⟨utf8Len before + utf8Len passed⟩ 0
            = ⟨utf8Len before + utf8Len passed⟩ := rfl
        rw [hback, hnext]
        simp only [String.utf8Len_append, String.utf8Len_cons, String.utf8Len_nil,
          List.append_assoc, List.singleton_append, Nat.zero_add, List.reverse_append,
          List.reverse_singleton, ← Nat.add_assoc] at hrest ⊢
        exact hrest

theorem components_eq (p : Path) :
    p.components = (p.text.toList.splitOn '/').map ofList := by
  have h := splitOnAux_slash [] [] p.text.toList []
  rw [List.append_nil, List.nil_append, String.ofList_toList] at h
  rw [Path.components, splitOn, if_neg (by decide), List.splitOn,
    List.splitOnP_eq_splitOnPPrepend]
  exact h

theorem splitOn_of_slash_notMem {cs : List Char} (h : '/' ∉ cs) : cs.splitOn '/' = [cs] := by
  refine List.splitOnP_eq_singleton fun c hc => ?_
  rw [beq_eq_false_iff_ne]
  rintro rfl
  exact h hc

theorem components_of_slash_notMem {p : Path} (h : '/' ∉ p.text.toList) :
    p.components = [p.text] := by
  rw [components_eq, splitOn_of_slash_notMem h, List.map_singleton, String.ofList_toList]

/-- The first component is empty if a slash comes first, or nothing at all. -/
theorem head?_components (p : Path) :
    p.components.head? = some "" ↔ p.text = "" ∨ ∃ rest, p.text.toList = '/' :: rest := by
  rw [components_eq, List.splitOn, ← String.toList_eq_nil_iff]
  cases p.text.toList with
  | nil => simp
  | cons c rest =>
      obtain ⟨piece, pieces, hpieces⟩ := List.exists_cons_of_ne_nil (List.splitOn_ne_nil '/' rest)
      rw [List.splitOn] at hpieces
      by_cases hc : c = '/'
      · simp [List.splitOnP_cons_eq_if_modifyHead, hc]
      · simp [List.splitOnP_cons_eq_if_modifyHead, hc, hpieces, ← String.toList_inj]

theorem fault?_eq_none {p : Path} (hnul : '\x00' ∉ p.text.toList)
    (hlength : p.text.utf8ByteSize ≤ maxBytes) : p.fault? = none := by
  unfold fault?
  rw [String.contains_char_eq, decide_eq_false hnul, if_neg (by simp),
    if_neg (Nat.not_lt_of_le hlength)]

/-! ## Components that lead somewhere -/

/-- Whether a component is neither empty nor a dot. -/
def isStep (name : String) : Bool := name ≠ "" && name ≠ "."

/-- The components that lead somewhere. -/
def steps (p : Path) : List String := p.components.filter isStep

/-- The steps of a path with given characters. -/
def stepsOf (cs : List Char) : List String := ((cs.splitOn '/').map ofList).filter isStep

theorem steps_eq (p : Path) : p.steps = stepsOf p.text.toList := by
  rw [steps, components_eq, stepsOf]

@[simp]
theorem stepsOf_nil : stepsOf [] = [] := by
  decide +kernel

@[simp]
theorem stepsOf_dot : stepsOf ['.'] = [] := by
  decide +kernel

theorem stepsOf_append_slash (cs rest : List Char) :
    stepsOf (cs ++ '/' :: rest) = stepsOf cs ++ stepsOf rest := by
  rw [stepsOf, List.splitOn, List.splitOnP_append_cons _ _ (by decide), List.map_append,
    List.filter_append]
  rfl

theorem stepsOf_of_slash_notMem {name : List Char} (hslash : '/' ∉ name) (hnil : name ≠ [])
    (hdot : name ≠ ['.']) : stepsOf name = [ofList name] := by
  have hstep : isStep (ofList name) = true := by
    simpa [isStep, ← String.toList_inj] using And.intro hnil hdot
  rw [stepsOf, splitOn_of_slash_notMem hslash, List.map_singleton, List.filter_cons_of_pos hstep,
    List.filter_nil]

end EventMixing.Path
