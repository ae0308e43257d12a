import Mathlib.Data.Nat.Choose.Basic
import EventMixing.Proofs.Tally

/-!
# How many pairs there are

A row is paired with the rows of its category that the pool holds: all those before it,
and no more than the pools are deep. Adding these up along the rows of a category gives
`pairsAmong`, which turns from a square into a line once the pool is full
(`pairsAmong_succ` is one more row). `step_pairsAmong` keeps the account for one row,
`foldl_step_pairsAmong` for all. So the counts hang on how often each category occurs
and not on the order of the rows (`occupancy_eq_of_perm`).
-/

namespace EventMixing

theorem length_rowsOf (category : UInt64) (categories : List (Option UInt64)) :
    (rowsOf category categories).length = categories.count (some category) := by
  induction categories using List.reverseRecOn with
  | nil => rfl
  | append_singleton seen next ih =>
      rw [rowsOf_snoc, List.length_append, ih, List.count_append, List.count_singleton]
      split <;> simp_all

namespace Pooling

/-! ## Pairs among the rows of one category -/

/-- The number of pairs among so many rows of one category. -/
def pairsAmong (depth events : Nat) : Nat :=
  if events ≤ depth then events * (events - 1) / 2
  else depth * (depth - 1) / 2 + depth * (events - depth)

theorem pairsAmong_zero (depth : Nat) : pairsAmong depth 0 = 0 := by
  simp [pairsAmong]

theorem pairsAmong_succ (depth events : Nat) :
    pairsAmong depth (events + 1) = pairsAmong depth events + min depth events := by
  rcases Nat.lt_trichotomy events depth with hlt | rfl | hgt
  · rw [pairsAmong, pairsAmong, if_pos (Nat.succ_le_of_lt hlt), if_pos (Nat.le_of_lt hlt),
      Nat.triangle_succ, Nat.min_eq_right (Nat.le_of_lt hlt)]
  · rw [pairsAmong, pairsAmong, if_neg (Nat.not_succ_le_self events), if_pos (Nat.le_refl events),
      Nat.add_sub_cancel_left, Nat.mul_one, Nat.min_self]
  · rw [pairsAmong, pairsAmong, if_neg (by omega), if_neg (by omega),
      Nat.succ_sub (Nat.le_of_lt hgt), Nat.mul_succ, Nat.min_eq_left (Nat.le_of_lt hgt),
      Nat.add_assoc]

/-! ## Along the rows -/

/-- A new row has a partner for each row of its category that has passed, as far as the
pool goes. -/
theorem length_events_of_reflects {depth : Nat} {seen : List (Option UInt64)} {s : Progress}
    (h : Reflects depth seen s) (category : UInt64) :
    (s.pools.events category).length = min depth (seen.count (some category)) := by
  rw [h.events_eq, length_recent, length_rowsOf]

theorem step_pairsAmong {depth : Nat} {seen : List (Option UInt64)} {s : Progress}
    (h : Reflects depth seen s) {category : UInt64}
    (hcount : s.pairs.toList.countP (·.category = category)
      = pairsAmong depth (seen.count (some category))) (next : Option UInt64) :
    (s.step next).pairs.toList.countP (·.category = category)
      = pairsAmong depth ((seen ++ [next]).count (some category)) := by
  rw [List.count_append]
  cases next with
  | none => exact hcount
  | some other =>
      rw [countP_pairs_step_some, hcount, length_events_of_reflects h]
      by_cases heq : other = category
      · subst heq
        rw [if_pos rfl, List.count_singleton_self, pairsAmong_succ]
      · have hzero : [some other].count (some category) = 0 := by simp [heq]
        rw [if_neg heq, hzero, Nat.add_zero, Nat.add_zero]

theorem foldl_step_pairsAmong {depth : Nat} (hpos : 0 < depth) {pools : Pools Nat}
    (hpools : Pools.ofDepth depth = .ok pools) (categories : List (Option UInt64))
    (category : UInt64) :
    (categories.foldl Progress.step ⟨pools, ∅, #[], 0, 0⟩).pairs.toList.countP
        (·.category = category)
      = pairsAmong depth (categories.count (some category)) := by
  induction categories using List.reverseRecOn with
  | nil => exact (pairsAmong_zero depth).symm
  | append_singleton seen next ih =>
      have hreflects : Reflects depth seen (seen.foldl Progress.step ⟨pools, ∅, #[], 0, 0⟩) :=
        foldl_step_reflects hpos seen (reflects_start hpools)
      rw [List.foldl_append]
      exact step_pairsAmong hreflects ih next

/-- The pairs of a category, counted in the list of all pairs. -/
theorem countP_pairs {depth : Nat} (hpos : 0 < depth) {categories : List (Option UInt64)}
    {p : Pooling} (hp : ofCategories categories depth = .ok p) (category : UInt64) :
    p.pairs.countP (·.category = category)
      = pairsAmong depth (categories.count (some category)) := by
  have hpools : Pools.ofDepth depth = .ok (⟨depth, hpos, ∅⟩ : Pools Nat) := dif_pos hpos
  rw [ofCategories, hpools] at hp
  obtain rfl := Except.ok.inj hp
  exact foldl_step_pairsAmong hpos hpools categories category

/-! ## Rows in another order -/

section Reordered

variable {depth : Nat} {categories categories' : List (Option UInt64)} {p p' : Pooling}

/-- Entries are told by their rows, in whatever order these come. -/
theorem mem_occupancy_iff (hpos : 0 < depth) (hp : ofCategories categories depth = .ok p)
    (o : Occupancy) :
    o ∈ p.occupancy ↔ some o.category ∈ categories ∧
      o.events = categories.count (some o.category) ∧
      o.mixedPairs = pairsAmong depth (categories.count (some o.category)) := by
  rw [(accounts_of_ofCategories hp).mem_occupancy, countP_pairs hpos hp]

theorem occupancy_eq_of_perm (hpos : 0 < depth) (hp : ofCategories categories depth = .ok p)
    (hp' : ofCategories categories' depth = .ok p') (hperm : categories'.Perm categories) :
    p'.occupancy = p.occupancy := by
  have hmem : ∀ o, o ∈ p'.occupancy ↔ o ∈ p.occupancy := by
    intro o
    rw [mem_occupancy_iff hpos hp, mem_occupancy_iff hpos hp', hperm.mem_iff, hperm.count_eq]
  have hascending := List.pairwise_map.mp (accounts_of_ofCategories hp).ascending
  have hascending' := List.pairwise_map.mp (accounts_of_ofCategories hp').ascending
  have hnodup : p.occupancy.Nodup := (accounts_of_ofCategories hp).nodup.of_map
  have hnodup' : p'.occupancy.Nodup := (accounts_of_ofCategories hp').nodup.of_map
  refine List.Perm.eq_of_pairwise (fun o o' _ _ hlt hlt' => ?_) hascending' hascending
    ((List.perm_ext_iff_of_nodup hnodup' hnodup).mpr hmem)
  exact absurd hlt' (UInt64.lt_asymm hlt)

end Reordered

/-- Each category that occurs has one entry, in ascending order, with the number `n` of its
rows and of its pairs: all pairs among `n` rows while they fit in a pool, and `depth` more
for each row from then on. The entries make up all categorized rows and all pairs, and no
count changes with the order of the rows. -/
theorem ofCategories_counts (categories : List (Option UInt64)) {depth : Nat}
    (hpos : 0 < depth) :
    ∃ p, ofCategories categories depth = .ok p ∧
      p.rows = categories.length ∧
      p.rejected = categories.count none ∧
      p.categorized = p.rows - p.rejected ∧
      (p.occupancy.map (·.category)).Pairwise (· < ·) ∧
      (∀ category, category ∈ p.occupancy.map (·.category) ↔ some category ∈ categories) ∧
      (∀ o ∈ p.occupancy,
        o.events = categories.count (some o.category) ∧ 1 ≤ o.events ∧
          o.mixedPairs = p.pairs.countP (·.category = o.category) ∧
          o.mixedPairs =
            if o.events ≤ depth then o.events * (o.events - 1) / 2
            else depth * (depth - 1) / 2 + depth * (o.events - depth)) ∧
      (p.occupancy.map (·.events)).sum = p.categorized ∧
      (p.occupancy.map (·.mixedPairs)).sum = p.pairs.length ∧
      ∀ categories', categories'.Perm categories →
        ∃ p', ofCategories categories' depth = .ok p' ∧
          p'.rows = p.rows ∧ p'.rejected = p.rejected ∧ p'.categorized = p.categorized ∧
          p'.occupancy = p.occupancy ∧ p'.pairs.length = p.pairs.length := by
  obtain ⟨s, hs, -⟩ := exists_ofCategories categories hpos
  have h : Accounts categories s.outcome := accounts_of_ofCategories hs
  refine ⟨s.outcome, hs, h.rows_eq, h.rejected_eq, h.categorized_eq, h.ascending,
    h.mem_map_category, fun o ho => ?_, h.sum_events, h.sum_mixedPairs,
    fun categories' hperm => ?_⟩
  · obtain ⟨hmem, hevents, hpairs⟩ := (mem_occupancy_iff hpos hs o).mp ho
    refine ⟨hevents, hevents ▸ List.one_le_count_iff.mpr hmem, ?_, ?_⟩
    · exact ((h.mem_occupancy o).mp ho).2.2
    · rw [hpairs, ← hevents, pairsAmong]
  · obtain ⟨s', hs', -⟩ := exists_ofCategories categories' hpos
    have h' : Accounts categories' s'.outcome := accounts_of_ofCategories hs'
    have hrows : s'.outcome.rows = s.outcome.rows := by
      rw [h'.rows_eq, h.rows_eq, hperm.length_eq]
    have hrejected : s'.outcome.rejected = s.outcome.rejected := by
      rw [h'.rejected_eq, h.rejected_eq, hperm.count_eq]
    have hoccupancy := occupancy_eq_of_perm hpos hs hs' hperm
    refine ⟨s'.outcome, hs', hrows, hrejected, ?_, hoccupancy, ?_⟩
    · rw [h'.categorized_eq, h.categorized_eq, hrows, hrejected]
    · rw [← h'.sum_mixedPairs, ← h.sum_mixedPairs, hoccupancy]

/-- Three rows of one category around one of another, with pools of one event. -/
theorem ofCategories_counts_depth_one :
    0 < 1 ∧ ∃ p, ofCategories [some 7, none, some 7, some 3, some 7] 1 = .ok p ∧
      p.rejected = 1 ∧ ⟨7, 3, 2⟩ ∈ p.occupancy := by
  obtain ⟨p, hp, -, hrejected, -, -, hmem, hcounts, -⟩ :=
    ofCategories_counts [some 7, none, some 7, some 3, some 7] Nat.one_pos
  obtain ⟨⟨category, events, pairs⟩, ho, rfl : category = 7⟩ :=
    List.mem_map.mp ((hmem 7).mpr (by decide))
  obtain ⟨rfl : events = 3, -, -, rfl : pairs = 2⟩ := hcounts _ ho
  exact ⟨by decide, p, hp, hrejected, ho⟩

end Pooling

end EventMixing
