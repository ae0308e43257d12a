import Mathlib.Data.List.Nodup
import EventMixing.Proofs.History

/-!
# What is counted along with the pairs

While rows stream through the pools, each category's rows and pairs are counted
beside the list of pairs. `Tallies` says what the counts amount to after some rows,
`step_tallies` and `foldl_step_tallies` keep it. What the outcome then reports is
`Accounts`: one entry for each category that occurs, in ascending order, with the
numbers of its rows and of its pairs. Since every row and every pair has its category
among the entries, the entries add up to all of them (`sum_events`, `sum_mixedPairs`).
-/

namespace EventMixing

/-! ## Counting class by class -/

variable {β : Type} [BEq β] [LawfulBEq β] {classes : List β}

theorem sum_indicator (classes : List β) (b : β) :
    (classes.map fun c => if b == c then 1 else 0).sum = classes.count b := by
  induction classes with
  | nil => rfl
  | cons c classes ih =>
      rw [List.map_cons, List.sum_cons, ih, List.count_cons, Nat.add_comm, BEq.comm]

/-- The members of all classes together are all members there are. -/
theorem sum_count_eq_length (hnodup : classes.Nodup) {xs : List β}
    (hmem : ∀ x ∈ xs, x ∈ classes) : (classes.map fun c => xs.count c).sum = xs.length := by
  induction xs with
  | nil => simp
  | cons x xs ih =>
      rw [List.forall_mem_cons] at hmem
      simp only [List.count_cons, List.length_cons]
      rw [List.sum_map_add, ih hmem.2, sum_indicator, List.count_eq_one_of_mem hnodup hmem.1]

namespace Pooling

/-! ## Counts along the rows -/

/-- What the counts amount to after the rows `seen`. -/
structure Tallies (seen : List (Option UInt64)) (s : Progress) : Prop where
  row_eq : s.row = seen.length
  rejected_eq : s.rejected = seen.count none
  pair_seen : ∀ p ∈ s.pairs.toList, some p.category ∈ seen
  counts_eq : ∀ category, s.counts[category]? =
    if some category ∈ seen then
      some ⟨category, seen.count (some category),
        s.pairs.toList.countP (·.category = category)⟩
    else none

theorem tallies_start (pools : Pools Nat) : Tallies [] ⟨pools, ∅, #[], 0, 0⟩ where
  row_eq := rfl
  rejected_eq := rfl
  pair_seen p hp := by cases hp
  counts_eq category := by simp

theorem counts_step_some (s : Progress) (category other : UInt64) :
    (s.step (some category)).counts[other]? =
      if category = other then
        some (countEvent category (s.pools.events category).length s.counts[category]?)
      else s.counts[other]? := by
  simp [Progress.step, Std.TreeMap.getElem?_insert]

theorem countP_pairs_step_some (s : Progress) (category other : UInt64) :
    (s.step (some category)).pairs.toList.countP (·.category = other) =
      s.pairs.toList.countP (·.category = other) +
        if category = other then (s.pools.events category).length else 0 := by
  rw [pairs_step_some, List.countP_append, List.countP_map]
  by_cases h : category = other <;> simp [Function.comp_def, h]

/-- One more row of a category adds to what its entry amounts to, also where the category
is new. -/
theorem countEvent_of_tallies {seen : List (Option UInt64)} {s : Progress} (h : Tallies seen s)
    (category : UInt64) (partners : Nat) :
    countEvent category partners s.counts[category]? =
      ⟨category, seen.count (some category) + 1,
        s.pairs.toList.countP (·.category = category) + partners⟩ := by
  rw [h.counts_eq]
  by_cases hseen : some category ∈ seen
  · rw [if_pos hseen, countEvent]
  · have hpairs : s.pairs.toList.countP (·.category = category) = 0 := by
      rw [List.countP_eq_zero]
      intro p hp heq
      exact hseen (of_decide_eq_true heq ▸ h.pair_seen p hp)
    rw [if_neg hseen, countEvent, hpairs, List.count_eq_zero_of_not_mem hseen, Nat.zero_add,
      Nat.zero_add]

theorem step_tallies {seen : List (Option UInt64)} {s : Progress} (h : Tallies seen s)
    (next : Option UInt64) : Tallies (seen ++ [next]) (s.step next) := by
  have hrow : s.row + 1 = (seen ++ [next]).length := by simp [h.row_eq]
  cases next with
  | none =>
      refine ⟨hrow, ?_, fun p hp => List.mem_append_left _ (h.pair_seen p hp),
        fun category => ?_⟩
      · rw [List.count_append, ← h.rejected_eq]
        rfl
      · have hcounts := h.counts_eq category
        simp only [List.mem_append, List.mem_singleton, reduceCtorEq, or_false,
          List.count_append, List.count_singleton, beq_iff_eq, if_false, Nat.add_zero]
        exact hcounts
  | some category =>
      refine ⟨hrow, ?_, fun p hp => ?_, fun other => ?_⟩
      · rw [List.count_append, ← h.rejected_eq]
        rfl
      · rw [pairs_step_some, List.mem_append] at hp
        rcases hp with hp | hp
        · exact List.mem_append_left _ (h.pair_seen p hp)
        · obtain ⟨first, -, rfl⟩ := List.mem_map.mp hp
          exact List.mem_append_right _ List.mem_cons_self
      · rw [counts_step_some, countP_pairs_step_some, List.count_append]
        by_cases heq : category = other
        · subst heq
          rw [if_pos rfl, if_pos rfl, if_pos (by simp), countEvent_of_tallies h,
            List.count_singleton_self]
        · have hne : ¬ other = category := fun h' => heq h'.symm
          rw [if_neg heq, if_neg heq, h.counts_eq]
          simp [heq, hne]

theorem foldl_step_tallies (pools : Pools Nat) (categories : List (Option UInt64)) :
    Tallies categories (categories.foldl Progress.step ⟨pools, ∅, #[], 0, 0⟩) := by
  induction categories using List.reverseRecOn with
  | nil => exact tallies_start pools
  | append_singleton seen next ih =>
      rw [List.foldl_append]
      exact step_tallies ih next

/-! ## What the outcome reports -/

/-- What pooling reports of rows with these categories. -/
structure Accounts (categories : List (Option UInt64)) (p : Pooling) : Prop where
  rows_eq : p.rows = categories.length
  rejected_eq : p.rejected = categories.count none
  categorized_eq : p.categorized = p.rows - p.rejected
  ascending : (p.occupancy.map (·.category)).Pairwise (· < ·)
  pair_mem : ∀ pair ∈ p.pairs, some pair.category ∈ categories
  mem_occupancy : ∀ o, o ∈ p.occupancy ↔ some o.category ∈ categories ∧
    o.events = categories.count (some o.category) ∧
    o.mixedPairs = p.pairs.countP (·.category = o.category)

section Outcome

variable {categories : List (Option UInt64)} {s : Progress}

/-- Counts are kept under the category that they are of. -/
theorem category_of_mem_counts (h : Tallies categories s) :
    ∀ entry ∈ s.counts.toList, entry.2.category = entry.1 := by
  intro entry hentry
  have hget := Std.TreeMap.mem_toList_iff_getElem?_eq_some.mp hentry
  rw [h.counts_eq, Option.ite_none_right_eq_some] at hget
  rw [← Option.some.inj hget.2]

theorem categories_of_outcome (h : Tallies categories s) :
    s.outcome.occupancy.map (·.category) = s.counts.keys := by
  rw [Progress.outcome, Pools.values_eq_map_snd, ← Std.TreeMap.map_fst_toList_eq_keys,
    List.map_map]
  exact List.map_congr_left (category_of_mem_counts h)

theorem mem_outcome_iff (h : Tallies categories s) (o : Occupancy) :
    o ∈ s.outcome.occupancy ↔ s.counts[o.category]? = some o := by
  rw [Progress.outcome, Pools.values_eq_map_snd, List.mem_map]
  constructor
  · rintro ⟨entry, hentry, rfl⟩
    rw [category_of_mem_counts h entry hentry]
    exact Std.TreeMap.mem_toList_iff_getElem?_eq_some.mp hentry
  · intro hget
    exact ⟨(o.category, o), Std.TreeMap.mem_toList_iff_getElem?_eq_some.mpr hget, rfl⟩

theorem accounts_of_tallies (h : Tallies categories s) : Accounts categories s.outcome := by
  refine ⟨h.row_eq, h.rejected_eq, rfl, ?_, h.pair_seen, fun o => ?_⟩
  · rw [categories_of_outcome h]
    exact Std.TreeMap.ordered_keys.imp fun hlt => Std.compare_eq_lt.mp hlt
  · rw [mem_outcome_iff h, h.counts_eq, Option.ite_none_right_eq_some, Option.some.injEq]
    refine and_congr_right fun _ => ?_
    cases o
    simp [Progress.outcome, eq_comm]

end Outcome

theorem accounts_of_ofCategories {categories : List (Option UInt64)} {depth : Nat} {p : Pooling}
    (h : ofCategories categories depth = .ok p) : Accounts categories p := by
  unfold ofCategories at h
  split at h
  · cases h
  · rename_i pools hpools
    obtain rfl := Except.ok.inj h
    exact accounts_of_tallies (foldl_step_tallies pools categories)

namespace Accounts

variable {categories : List (Option UInt64)} {p : Pooling}

theorem nodup (h : Accounts categories p) : (p.occupancy.map (·.category)).Nodup :=
  h.ascending.imp UInt64.ne_of_lt

theorem mem_map_category (h : Accounts categories p) (c : UInt64) :
    c ∈ p.occupancy.map (·.category) ↔ some c ∈ categories := by
  rw [List.mem_map]
  constructor
  · rintro ⟨o, ho, rfl⟩
    exact ((h.mem_occupancy o).mp ho).1
  · intro hc
    let o : Occupancy :=
      ⟨c, categories.count (some c), p.pairs.countP (·.category = c)⟩
    exact ⟨o, (h.mem_occupancy o).mpr ⟨hc, rfl, rfl⟩, rfl⟩

theorem categorized_add_rejected (h : Accounts categories p) :
    p.categorized + p.rejected = p.rows := by
  have hle : p.rejected ≤ p.rows := by
    rw [h.rejected_eq, h.rows_eq]
    exact List.count_le_length
  rw [h.categorized_eq, Nat.sub_add_cancel hle]

theorem sum_events (h : Accounts categories p) :
    (p.occupancy.map (·.events)).sum = p.categorized := by
  -- the rejected rows are one class more
  have hnodup : (none :: (p.occupancy.map (·.category)).map some).Nodup :=
    List.nodup_cons.mpr ⟨by simp, h.nodup.map fun _ _ => Option.some.inj⟩
  have hmem : ∀ c ∈ categories, c ∈ none :: (p.occupancy.map (·.category)).map some := by
    rintro (- | c) hc
    · exact List.mem_cons_self
    · exact List.mem_cons_of_mem _ (List.mem_map_of_mem ((h.mem_map_category c).mpr hc))
  have hentries : p.occupancy.map (·.events)
      = ((p.occupancy.map (·.category)).map some).map fun c => categories.count c := by
    rw [List.map_map, List.map_map]
    exact List.map_congr_left fun o ho => ((h.mem_occupancy o).mp ho).2.1
  have hsum : categories.count none + (p.occupancy.map (·.events)).sum = categories.length := by
    rw [hentries, ← List.sum_cons, ← sum_count_eq_length hnodup hmem, List.map_cons]
  rw [h.categorized_eq, h.rows_eq, h.rejected_eq, ← hsum, Nat.add_sub_cancel_left]

theorem sum_mixedPairs (h : Accounts categories p) :
    (p.occupancy.map (·.mixedPairs)).sum = p.pairs.length := by
  have hmem : ∀ c ∈ p.pairs.map (·.category), c ∈ p.occupancy.map (·.category) := by
    intro c hc
    obtain ⟨pair, hpair, rfl⟩ := List.mem_map.mp hc
    exact (h.mem_map_category _).mpr (h.pair_mem pair hpair)
  have hentries : p.occupancy.map (·.mixedPairs)
      = (p.occupancy.map (·.category)).map fun c => (p.pairs.map (·.category)).count c := by
    rw [List.map_map]
    refine List.map_congr_left fun o ho => ?_
    rw [((h.mem_occupancy o).mp ho).2.2, Function.comp_apply, List.count_eq_countP, List.countP_map]
    rfl
  rw [hentries, sum_count_eq_length h.nodup hmem, List.length_map]

end Accounts

end Pooling

end EventMixing
