import Mathlib.Data.List.Forall2
import Mathlib.Data.List.Induction
import EventMixing.Report.BoxTable

/-!
# What a drawn table shows

A table of plain cells is drawn with a line for its header and one for each row, and three
lines that hold no text. `Shows` says what a row's line looks like: its texts in order with
strokes between them, each filled up with blanks to the width of its column. That width is
taken from the widest text of the column, so no text is cut off and the strokes of all rows
stand below each other: `drawn_lines` puts this together for a whole table.
-/

namespace EventMixing.BoxTable

/-! ## The widths of the columns -/

/-- The widths of the cells in a column. -/
def widthsIn (rows : List (List Cell)) (column : Nat) : List Nat :=
  rows.filterMap fun cells => cells[column]?.map (·.width)

/-- A column gets as wide as it was or as its new cell is, whichever is more. -/
theorem getElem?_widen (widths : List Nat) (cells : List Cell) (column : Nat) :
    (widen widths cells)[column]? = max widths[column]? (cells[column]?.map (·.width)) := by
  induction widths generalizing cells column with
  | nil => simp [widen]
  | cons width widths ih =>
      cases cells with
      | nil => simp [widen]
      | cons cell cells =>
          cases column with
          | zero => simp [widen]
          | succ column => exact ih cells column

theorem max?_append_toList (ns : List Nat) (n : Option Nat) :
    (ns ++ n.toList).max? = max ns.max? n := by
  cases n with
  | none => simp
  | some n =>
      cases ns with
      | nil => rfl
      | cons m ns =>
          rw [List.cons_append, List.max?_cons', List.max?_cons', List.foldl_append]
          rfl

/-- Columns are as wide as the widest of their cells. -/
theorem getElem?_foldl_widen (rows : List (List Cell)) (column : Nat) :
    (rows.foldl widen [])[column]? = (widthsIn rows column).max? := by
  induction rows using List.reverseRecOn with
  | nil => rfl
  | append_singleton rows cells ih =>
      have hlast : widthsIn (rows ++ [cells]) column =
          widthsIn rows column ++ (cells[column]?.map (·.width)).toList := by
        rw [widthsIn, List.filterMap_append, List.filterMap_cons, List.filterMap_nil]
        cases cells[column]? <;> rfl
      rw [List.foldl_append, List.foldl_cons, List.foldl_nil, getElem?_widen, ih, hlast,
        max?_append_toList]

theorem length_widen (widths : List Nat) (cells : List Cell) :
    (widen widths cells).length = max widths.length cells.length := by
  induction widths generalizing cells with
  | nil => simp [widen]
  | cons width widths ih =>
      cases cells with
      | nil => simp [widen]
      | cons cell cells => rw [widen, List.length_cons, ih]; simp

theorem length_foldl_widen {rows : List (List Cell)} {n : Nat} {widths : List Nat}
    (hwidths : widths.length = n) (hrows : ∀ cells ∈ rows, cells.length = n) :
    (rows.foldl widen widths).length = n := by
  induction rows generalizing widths with
  | nil => exact hwidths
  | cons cells rows ih =>
      obtain ⟨hcells, hrows⟩ := List.forall_mem_cons.mp hrows
      refine ih ?_ hrows
      rw [length_widen, hwidths, hcells, Nat.max_self]

/-! ## The line of a row -/

/-- Pieces for texts: each text stands between blanks and is filled up with more of them to the
width of its column. -/
inductive Filled : List Nat → List String → List String → Prop
  | nil : Filled [] [] []
  | cons {width blanks : Nat} {text : String} {widths : List Nat} {texts pieces : List String}
      (h : text.length + blanks = width) (rest : Filled widths texts pieces) :
      Filled (width :: widths) (text :: texts)
        ((" " ++ text ++ String.ofList (List.replicate blanks ' ') ++ " ") :: pieces)

/-- The line shows the texts in order, with strokes around and between them. -/
def Shows (widths : List Nat) (texts : List String) (line : String) : Prop :=
  ∃ pieces, Filled widths texts pieces ∧ line = "│" ++ "┆".intercalate pieces ++ "│"

/-- A line that holds no text. -/
def Ruled (line : String) : Prop := ∀ c ∈ line.toList, c ∈ "┌─┬┐╞═╪╡└┴┘".toList

theorem toList_pushn (text : String) (c : Char) (n : Nat) :
    (text.pushn c n).toList = text.toList ++ List.replicate n c := by
  rw [String.pushn]
  induction n with
  | zero => simp [Nat.repeat]
  | succ n ih => rw [Nat.repeat, String.toList_push, ih, List.append_assoc, List.replicate_succ']

theorem filled_padded {widths : List Nat} {cells : List Cell}
    (hfits : List.Forall₂ (fun width cell => cell.width ≤ width) widths cells)
    (hplain : ∀ cell ∈ cells, cell.width = cell.text.length) :
    Filled widths (cells.map (·.text)) (widths.zipWith padded cells) := by
  induction hfits with
  | nil => exact .nil
  | @cons width cell widths cells hfit _ ih =>
      obtain ⟨hcell, hcells⟩ := List.forall_mem_cons.mp hplain
      have hblanks : cell.text.length + (width - cell.width) = width := by
        rw [← hcell]
        exact Nat.add_sub_cancel' hfit
      have hpadded : padded width cell = " " ++ cell.text ++
          String.ofList (List.replicate (width - cell.width) ' ') ++ " " := by
        rw [← String.toList_inj]
        simp [padded, toList_pushn]
      rw [List.map_cons, List.zipWith_cons_cons, hpadded]
      exact .cons hblanks (ih hcells)

theorem shows_rowLine {widths : List Nat} {cells : List Cell}
    (hfits : List.Forall₂ (fun width cell => cell.width ≤ width) widths cells)
    (hplain : ∀ cell ∈ cells, cell.width = cell.text.length) :
    Shows widths (cells.map (·.text)) (rowLine widths cells) :=
  ⟨_, filled_padded hfits hplain, rfl⟩

/-! ## Lines without text -/

theorem mem_intercalate {α : Type} {sep : List α} {pieces : List (List α)} {a : α}
    (h : a ∈ sep.intercalate pieces) : a ∈ sep ∨ ∃ piece ∈ pieces, a ∈ piece := by
  induction pieces with
  | nil => simp at h
  | cons piece rest ih =>
      cases rest with
      | nil => exact Or.inr ⟨piece, List.mem_cons_self, by simpa using h⟩
      | cons next rest =>
          rw [List.intercalate_cons_cons, List.mem_append, List.mem_append] at h
          rcases h with (hpiece | hsep) | hrest
          · exact Or.inr ⟨piece, List.mem_cons_self, hpiece⟩
          · exact Or.inl hsep
          · exact (ih hrest).imp_right fun ⟨p, hp, ha⟩ => ⟨p, List.mem_cons_of_mem _ hp, ha⟩

theorem mem_rule {left fill cross right c : Char} {widths : List Nat}
    (h : c ∈ (rule left fill cross right widths).toList) :
    c ∈ [left, fill, cross, right] := by
  have htoList : ∀ c : Char, c.toString.toList = [c] := fun c => by simp
  rw [rule, String.toList_append, String.toList_append, String.toList_intercalate, htoList,
    htoList, htoList, List.mem_append, List.mem_append] at h
  rcases h with (hleft | hpieces) | hright
  · simp [List.mem_singleton.mp hleft]
  · rcases mem_intercalate hpieces with hcross | ⟨piece, hpiece, hc⟩
    · simp [List.mem_singleton.mp hcross]
    · simp only [List.mem_map] at hpiece
      obtain ⟨-, ⟨width, -, rfl⟩, rfl⟩ := hpiece
      rw [toList_pushn] at hc
      simp [List.eq_of_mem_replicate hc]
  · simp [List.mem_singleton.mp hright]

theorem ruled_rule {left fill cross right : Char} (widths : List Nat)
    (h : [left, fill, cross, right] ⊆ "┌─┬┐╞═╪╡└┴┘".toList) :
    Ruled (rule left fill cross right widths) := fun _ hc => h (mem_rule hc)

/-! ## A whole table -/

/-- The rows are as long as the header, and every cell is as wide as its text is long. -/
def Plain (t : BoxTable) : Prop :=
  ∀ cells ∈ t.header :: t.rows, cells.length = t.header.length ∧
    ∀ cell ∈ cells, cell.width = cell.text.length

/-- The drawing of a header and of rows: a line for the header, one for each row in order, and
lines without text above, between and below them. The widths are those of the longest texts
in the columns. -/
structure Drawn (header : List String) (rows : List (List String)) (widths : List Nat)
    (lines : List String) : Prop where
  widest : ∀ column : Nat, widths[column]? =
    ((header :: rows).filterMap fun texts => texts[column]?.map String.length).max?
  length_lines : lines.length = rows.length + 4
  header_line : ∃ line, lines[1]? = some line ∧ Shows widths header line
  row_line : ∀ (i : Nat) (texts : List String), rows[i]? = some texts →
    ∃ line, lines[i + 3]? = some line ∧ Shows widths texts line
  rule_line : ∀ i ∈ [0, 2, rows.length + 3], ∃ line, lines[i]? = some line ∧ Ruled line

section Drawing

variable {t : BoxTable} {cells : List Cell}

theorem fits_of_mem (h : t.Plain) (hcells : cells ∈ t.header :: t.rows) :
    List.Forall₂ (fun width cell => cell.width ≤ width) t.widths cells := by
  have hlength : t.widths.length = cells.length := by
    have hheader : (widen [] t.header).length = t.header.length := List.length_map _
    rw [(h cells hcells).1, widths, List.foldl_cons]
    exact length_foldl_widen hheader fun cells hrow => (h cells (List.mem_cons_of_mem _ hrow)).1
  refine List.forall₂_iff_get.mpr ⟨hlength, fun i hi hi' => ?_⟩
  have hwidest := (List.getElem?_eq_getElem hi).symm.trans
    (getElem?_foldl_widen (t.header :: t.rows) i)
  refine (List.max?_eq_some_iff.mp hwidest.symm).2 _ (List.mem_filterMap.mpr ⟨cells, hcells, ?_⟩)
  rw [List.getElem?_eq_getElem hi']
  rfl

theorem shows_of_mem (h : t.Plain) (hcells : cells ∈ t.header :: t.rows) :
    Shows t.widths (cells.map (·.text)) (rowLine t.widths cells) :=
  shows_rowLine (fits_of_mem h hcells) (h cells hcells).2

theorem lines_eq (t : BoxTable) : t.lines =
    rule '┌' '─' '┬' '┐' t.widths :: rowLine t.widths t.header :: rule '╞' '═' '╪' '╡' t.widths ::
      (t.rows.map (rowLine t.widths) ++ [rule '└' '─' '┴' '┘' t.widths]) := rfl

/-- A table of plain cells is drawn with the texts of its header and of its rows. -/
theorem drawn_lines (h : t.Plain) :
    Drawn (t.header.map (·.text)) (t.rows.map (·.map (·.text))) t.widths t.lines where
  widest := by
    intro column
    have hrows : t.header.map (·.text) :: t.rows.map (·.map (·.text)) =
        (t.header :: t.rows).map (·.map (·.text)) := rfl
    rw [widths, getElem?_foldl_widen, widthsIn, hrows, List.filterMap_map]
    refine congrArg List.max? (List.filterMap_congr fun cells hcells => ?_)
    rw [Function.comp_apply, List.getElem?_map]
    cases hcell : cells[column]? with
    | none => rfl
    | some cell => exact congrArg some ((h cells hcells).2 cell (List.mem_of_getElem? hcell))
  length_lines := by
    rw [lines_eq]
    simp
  header_line := ⟨_, rfl, shows_of_mem h List.mem_cons_self⟩
  row_line := by
    intro i texts htexts
    rw [List.getElem?_map, Option.map_eq_some_iff] at htexts
    obtain ⟨cells, hcells, rfl⟩ := htexts
    refine ⟨_, ?_, shows_of_mem h (List.mem_cons_of_mem _ (List.mem_of_getElem? hcells))⟩
    have hrow : (t.rows.map (rowLine t.widths))[i]? = some (rowLine t.widths cells) := by
      rw [List.getElem?_map, hcells]
      rfl
    obtain ⟨hi, -⟩ := List.getElem?_eq_some_iff.mp hrow
    rw [lines_eq, List.getElem?_cons_succ, List.getElem?_cons_succ, List.getElem?_cons_succ,
      List.getElem?_append_left hi, hrow]
  rule_line := by
    have hlast : t.lines[(t.rows.map (·.map (·.text))).length + 3]? =
        some (rule '└' '─' '┴' '┘' t.widths) := by
      rw [lines_eq, List.getElem?_cons_succ, List.getElem?_cons_succ, List.getElem?_cons_succ]
      simp
    simp only [List.mem_cons, List.not_mem_nil, or_false, forall_eq_or_imp, forall_eq]
    exact ⟨⟨_, rfl, ruled_rule _ (by decide)⟩, ⟨_, rfl, ruled_rule _ (by decide)⟩,
      _, hlast, ruled_rule _ (by decide)⟩

end Drawing

end EventMixing.BoxTable
