import Mathlib.Algebra.BigOperators.Group.List.Basic
import Mathlib.Algebra.GroupWithZero.Nat
import Mathlib.Data.List.DropRight
import EventMixing.Proofs.Window

/-!
# Pools as histories

Pools forget, histories do not. The `history` of a category is all that was
put into it since the pools were last cleared, and the pools hold its `recent`
part: `Remembers` says so of one state, together with the rule that no category
is held without an event. `apply_remembers` keeps this for one operation,
`after_remembers` for any number of them.

What the pools answer can then be read off the histories
(`after_refines_history`). Since inserting into one category leaves the history
of every other as it was, no category's answers depend on what happens in the
others.
-/

namespace EventMixing

namespace Pools

variable {α : Type}

/-! ## Operations and histories -/

/-- What can be done to pools. -/
inductive Operation (α : Type) where
  | insert (category : UInt64) (event : α)
  | clear

namespace Operation

def isClear : Operation α → Bool
  | insert _ _ => false
  | clear => true

/-- The event that an operation puts into a category. -/
def event? (category : UInt64) : Operation α → Option α
  | insert other event => if other = category then some event else none
  | clear => none

/-- The operation clears the pools or puts an event into the category. -/
def concerns (category : UInt64) (op : Operation α) : Bool :=
  op.isClear || (op.event? category).isSome

end Operation

def apply (p : Pools α) : Operation α → Pools α
  | .insert category event => (p.insert category event).2
  | .clear => p.clear

/-- The pools after operations, the first one first. -/
def after (p : Pools α) (ops : List (Operation α)) : Pools α := ops.foldl apply p

/-- The events put into a category since the last clearing, oldest first. -/
def history (category : UInt64) (ops : List (Operation α)) : List α :=
  (ops.rtakeWhile fun op => !op.isClear).filterMap (·.event? category)

@[simp]
theorem history_nil (category : UInt64) : history category ([] : List (Operation α)) = [] := by
  simp [history]

theorem history_snoc_clear (category : UInt64) (ops : List (Operation α)) :
    history category (ops ++ [.clear]) = [] := by
  rw [history, List.rtakeWhile_concat_neg _ _ _ (by simp [Operation.isClear]), List.filterMap_nil]

theorem history_snoc_insert (category other : UInt64) (event : α) (ops : List (Operation α)) :
    history category (ops ++ [.insert other event]) =
      history category ops ++ if other = category then [event] else [] := by
  rw [history, List.rtakeWhile_concat_pos _ _ _ (by simp [Operation.isClear]),
    List.filterMap_append, history]
  by_cases heq : other = category <;> simp [Operation.event?, heq]

/-- What happens in other categories is no part of a history. -/
theorem history_filter_concerns (category : UInt64) (ops : List (Operation α)) :
    history category (ops.filter (·.concerns category)) = history category ops := by
  induction ops using List.reverseRecOn with
  | nil => rfl
  | append_singleton ops op ih =>
      rw [List.filter_append]
      cases op with
      | clear =>
          have hkept : [Operation.clear].filter (·.concerns category) = [(.clear : Operation α)] :=
            rfl
          rw [hkept, history_snoc_clear, history_snoc_clear]
      | insert other event =>
          rw [history_snoc_insert]
          by_cases heq : other = category
          · have hkept : [Operation.insert other event].filter (·.concerns category)
                = [.insert other event] := by
              simp [Operation.concerns, Operation.event?, heq]
            rw [hkept, history_snoc_insert, ih]
          · have hdropped : [Operation.insert other event].filter (·.concerns category) = [] := by
              simp [Operation.concerns, Operation.isClear, Operation.event?, heq]
            rw [hdropped, List.append_nil, if_neg heq, List.append_nil, ih]

/-! ## Reading the map of pools -/

theorem values_eq_map_snd {β : Type} (m : Std.TreeMap UInt64 β) :
    m.values = m.toList.map (·.2) := by
  have hfold : m.values = m.foldr (fun _ value values => value :: values) [] := rfl
  rw [hfold, Std.TreeMap.foldr_eq_foldr_toList, List.map_eq_foldr]

theorem ascending_categories (p : Pools α) : p.categories.Pairwise (· < ·) :=
  Std.TreeMap.ordered_keys.imp fun hlt => Std.compare_eq_lt.mp hlt

theorem mem_categories {p : Pools α} {category : UInt64} :
    category ∈ p.categories ↔ category ∈ p.held :=
  Std.TreeMap.mem_keys

theorem totalEvents_eq_sum (p : Pools α) :
    p.totalEvents = (p.categories.map p.size).sum := by
  have hsizes : p.held.values.map List.length = p.categories.map p.size := by
    rw [values_eq_map_snd, categories, ← Std.TreeMap.map_fst_toList_eq_keys, List.map_map,
      List.map_map]
    refine List.map_congr_left (fun entry hentry => ?_)
    have hget := Std.TreeMap.mem_toList_iff_getElem?_eq_some.mp hentry
    simp [size, events, Std.TreeMap.getD_eq_getD_getElem?, hget]
  rw [totalEvents, ← hsizes, List.sum_eq_foldl, List.foldl_map]

/-! ## What pools remember -/

/-- The state of pools after the operations `ops`. -/
structure Remembers (depth : Nat) (ops : List (Operation α)) (p : Pools α) : Prop where
  depth_eq : p.depth = depth
  events_eq : ∀ category, p.events category = recent depth (history category ops)
  mem_held : ∀ category, category ∈ p.held ↔ history category ops ≠ []

theorem remembers_start {depth : Nat} (hpos : 0 < depth) :
    Remembers depth [] (⟨depth, hpos, ∅⟩ : Pools α) where
  depth_eq := rfl
  events_eq category := by simp [events]
  mem_held category := by simp

theorem apply_remembers {depth : Nat} (hpos : 0 < depth) {ops : List (Operation α)} {p : Pools α}
    (h : Remembers depth ops p) (op : Operation α) : Remembers depth (ops ++ [op]) (p.apply op) := by
  cases op with
  | insert category event =>
      refine ⟨h.depth_eq, fun other => ?_, fun other => ?_⟩
      · rw [apply, history_snoc_insert]
        exact events_insert_recent hpos h.depth_eq h.events_eq category other event
      · -- an insertion never leaves its category empty
        have hmem : other ∈ (p.apply (.insert category event)).held
            ↔ category = other ∨ other ∈ p.held := by
          simp [apply, insert, Std.TreeMap.mem_insert]
        rw [hmem, h.mem_held, history_snoc_insert]
        by_cases heq : category = other <;> simp [heq]
  | clear =>
      refine ⟨h.depth_eq, fun category => ?_, fun category => ?_⟩
      · rw [apply, events_clear, history_snoc_clear, recent_nil]
      · simp [apply, clear, history_snoc_clear]

theorem after_remembers {depth : Nat} (hpos : 0 < depth) (ops : List (Operation α)) :
    Remembers depth ops (after ⟨depth, hpos, ∅⟩ ops) := by
  induction ops using List.reverseRecOn with
  | nil => exact remembers_start hpos
  | append_singleton ops op ih =>
      rw [after, List.foldl_append]
      exact apply_remembers hpos ih op

namespace Remembers

variable {depth : Nat} {ops : List (Operation α)} {p : Pools α}

theorem size_eq (h : Remembers depth ops p) (category : UInt64) :
    p.size category = min depth (history category ops).length := by
  rw [size, h.events_eq, length_recent]

theorem isEmpty_iff (h : Remembers depth ops p) :
    p.isEmpty = true ↔ ∀ category, history category ops = [] := by
  rw [isEmpty, Std.TreeMap.isEmpty_iff_forall_not_mem]
  simp only [h.mem_held, ne_eq, Decidable.not_not]

end Remembers

/-- After any operations an insertion finds the recent part of its category's history,
and everything that the pools tell of themselves is told by the histories; operations
that do not concern a category change none of its answers. -/
theorem after_refines_history {depth : Nat} (hpos : 0 < depth) :
    ∃ start : Pools α, ofDepth depth = .ok start ∧ ∀ ops,
      (∀ category event,
        ((start.after ops).insert category event).1 = recent depth (history category ops)) ∧
      (start.after ops).depth = depth ∧
      (∀ category, (start.after ops).size category = min depth (history category ops).length) ∧
      (start.after ops).categories.Pairwise (· < ·) ∧
      (∀ category, category ∈ (start.after ops).categories ↔ history category ops ≠ []) ∧
      (start.after ops).totalEvents
        = ((start.after ops).categories.map (start.after ops).size).sum ∧
      ((start.after ops).isEmpty = true ↔ ∀ category, history category ops = []) ∧
      ∀ category ops', ops.filter (·.concerns category) = ops'.filter (·.concerns category) →
        ∀ event, ((start.after ops).insert category event).1
          = ((start.after ops').insert category event).1 := by
  refine ⟨⟨depth, hpos, ∅⟩, dif_pos hpos, fun ops => ?_⟩
  have h := after_remembers hpos ops
  refine ⟨fun category event => h.events_eq category, h.depth_eq, h.size_eq,
    ascending_categories _, fun category => mem_categories.trans (h.mem_held category),
    totalEvents_eq_sum _, h.isEmpty_iff, fun category ops' hsame event => ?_⟩
  have h' := after_remembers hpos ops'
  rw [insert_fst, insert_fst, h.events_eq, h'.events_eq, ← history_filter_concerns, hsame,
    history_filter_concerns]

/-- Cleared pools start anew, a full one drops its oldest event, and the neighbour's events
do not matter. -/
theorem after_refines_history_depth_two :
    0 < 2 ∧ ∃ start : Pools Nat, ofDepth 2 = .ok start ∧
      ((start.after [.insert 7 1, .clear, .insert 7 2, .insert 3 9, .insert 7 4,
        .insert 7 5]).insert 7 6).1 = [4, 5] := by
  obtain ⟨start, hstart, h⟩ := @after_refines_history Nat 2 Nat.two_pos
  refine ⟨Nat.two_pos, start, hstart, ?_⟩
  rw [(h _).1]
  decide

end Pools

end EventMixing
