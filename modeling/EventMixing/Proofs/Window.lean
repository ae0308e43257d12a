import Mathlib.Data.List.Count
import Mathlib.Data.List.Induction
import EventMixing.Pooling

/-!
# Which rows are mixed

A pool holds the last rows of its category, as many as it is deep. So a row is
mixed with an earlier one of its category exactly while fewer rows of that
category than the pools are deep have passed in between. The invariant behind
this is `Reflects`: after some rows have streamed through, the pools hold
the `recent` part of each category's rows and the pairs are the `Paired` ones,
in the order of their second and then of their first row. `step_reflects`
keeps it for one row, `foldl_step_reflects` for all.
-/

namespace EventMixing

/-! ## The recent part of a history -/

section Recent

variable {α : Type}

/-- The last `depth` events of a history, or all where there are fewer. -/
def recent (depth : Nat) (history : List α) : List α :=
  history.drop (history.length - depth)

@[simp] theorem recent_nil (depth : Nat) : recent depth ([] : List α) = [] :=
  List.drop_nil

theorem recent_eq_self {depth : Nat} {history : List α} (h : history.length ≤ depth) :
    recent depth history = history := by
  rw [recent, Nat.sub_eq_zero_of_le h, List.drop_zero]

theorem length_recent (depth : Nat) (history : List α) :
    (recent depth history).length = min depth history.length := by
  rw [recent, List.length_drop]
  omega

theorem recent_cons {depth : Nat} (event : α) {history : List α} (h : depth ≤ history.length) :
    recent depth (event :: history) = recent depth history := by
  rw [recent, recent, List.length_cons, Nat.succ_sub h, List.drop_succ_cons]

theorem recent_sublist (depth : Nat) (history : List α) :
    (recent depth history).Sublist history :=
  List.drop_sublist _ _

theorem recent_ne_nil {depth : Nat} (hpos : 0 < depth) {history : List α}
    (hne : history ≠ []) : recent depth history ≠ [] := by
  have := List.length_pos_iff.mpr hne
  rw [recent, ne_eq, List.drop_eq_nil_iff]
  omega

/-- A pool that takes a new event drops the one that is no longer recent. -/
theorem push_recent {depth : Nat} (hpos : 0 < depth) (history : List α) (event : α) :
    Pools.push depth (recent depth history) event = recent depth (history ++ [event]) := by
  unfold Pools.push
  split
  · rename_i hfull
    rw [recent, List.length_drop] at hfull
    rw [recent, recent, List.drop_drop, List.length_append, List.length_singleton,
      List.drop_append_of_le_length (by omega)]
    congr 2
    omega
  · rename_i hroom
    rw [recent, List.length_drop] at hroom
    have hlen : history.length + 1 ≤ depth := by omega
    rw [recent_eq_self (Nat.le_of_succ_le hlen), recent_eq_self (by simpa using hlen)]

/-- Where pools hold the recent part of every history, they go on to do so. -/
theorem events_insert_recent {depth : Nat} (hpos : 0 < depth) {p : Pools α}
    (hdepth : p.depth = depth) {history : UInt64 → List α}
    (hevents : ∀ category, p.events category = recent depth (history category))
    (category other : UInt64) (event : α) :
    (p.insert category event).2.events other =
      recent depth (history other ++ if category = other then [event] else []) := by
  rw [Pools.events_insert, hdepth]
  by_cases heq : category = other
  · subst heq
    rw [if_pos rfl, if_pos rfl, hevents, push_recent hpos]
  · rw [if_neg heq, if_neg heq, List.append_nil, hevents]

/-- In an ascending history an event is recent while fewer than `depth` later ones
have come. -/
theorem mem_recent_iff {depth : Nat} {rows : List Nat} (h : rows.Pairwise (· < ·)) {row : Nat} :
    row ∈ recent depth rows ↔ row ∈ rows ∧ rows.countP (row < ·) < depth := by
  induction rows with
  | nil => simp
  | cons r rows ih =>
      obtain ⟨hlt, hrows⟩ := List.pairwise_cons.mp h
      rcases Nat.lt_or_ge rows.length depth with hshort | hlong
      · rw [recent_eq_self hshort, iff_self_and]
        intro hmem
        have hself : (r :: rows).countP (row < ·) < (r :: rows).length :=
          List.countP_lt_length_iff.mpr ⟨row, hmem, by simp⟩
        exact Nat.lt_of_lt_of_le hself hshort
      · rw [recent_cons r hlong, ih hrows, List.mem_cons]
        constructor
        · rintro ⟨hmem, hcount⟩
          have hnot : ¬ row < r := Nat.not_lt_of_gt (hlt row hmem)
          exact ⟨Or.inr hmem, by simpa [List.countP_cons, hnot] using hcount⟩
        · rintro ⟨rfl | hmem, hcount⟩
          · -- all others come after the first event
            have hall : rows.countP (row < ·) = rows.length :=
              List.countP_eq_length.mpr (fun r hr => decide_eq_true (hlt r hr))
            rw [List.countP_cons, hall] at hcount
            omega
          · rw [List.countP_cons] at hcount
            exact ⟨hmem, by omega⟩

end Recent

/-! ## The rows of a category -/

/-- How many entries strictly between two positions have a property. -/
def countBetween {α : Type} (p : α → Bool) (xs : List α) (first second : Nat) : Nat :=
  ((xs.take second).drop (first + 1)).countP p

theorem countBetween_map {α β : Type} (f : α → β) (p : β → Bool) (xs : List α)
    (first second : Nat) :
    countBetween p (xs.map f) first second = countBetween (p ∘ f) xs first second := by
  rw [countBetween, countBetween, ← List.map_take, ← List.map_drop, List.countP_map]

theorem countBetween_snoc {α : Type} (p : α → Bool) (xs : List α) (x : α) (first : Nat)
    {second : Nat} (h : second ≤ xs.length) :
    countBetween p (xs ++ [x]) first second = countBetween p xs first second := by
  rw [countBetween, List.take_append_of_le_length h, countBetween]

theorem countBetween_length {α : Type} (p : α → Bool) (xs : List α) (first : Nat) :
    countBetween p xs first xs.length = (xs.drop (first + 1)).countP p := by
  rw [countBetween, List.take_length]

/-- The rows of a category, ascending. -/
def rowsOf (category : UInt64) (categories : List (Option UInt64)) : List Nat :=
  (List.range categories.length).filter fun row => categories[row]? = some (some category)

theorem mem_rowsOf {category : UInt64} {categories : List (Option UInt64)} {row : Nat} :
    row ∈ rowsOf category categories ↔ categories[row]? = some (some category) := by
  simp only [rowsOf, List.mem_filter, List.mem_range, decide_eq_true_eq, and_iff_right_iff_imp]
  intro h
  exact (List.getElem?_eq_some_iff.mp h).1

theorem rowsOf_ascending (category : UInt64) (categories : List (Option UInt64)) :
    (rowsOf category categories).Pairwise (· < ·) :=
  List.pairwise_lt_range.filter _

theorem rowsOf_snoc (category : UInt64) (categories : List (Option UInt64))
    (next : Option UInt64) :
    rowsOf category (categories ++ [next]) =
      rowsOf category categories ++ if next = some category then [categories.length] else [] := by
  have hbefore : ∀ row ∈ List.range categories.length,
      decide ((categories ++ [next])[row]? = some (some category))
        = decide (categories[row]? = some (some category)) := by
    intro row hrow
    rw [List.getElem?_append_left (List.mem_range.mp hrow)]
  rw [rowsOf, List.length_append, List.length_singleton, List.range_succ, List.filter_append,
    List.filter_congr hbefore, rowsOf]
  simp [List.filter_cons]

/-- Counting a category's later rows is counting it among the later entries. -/
theorem countP_rowsOf (category : UInt64) (categories : List (Option UInt64)) (first : Nat) :
    (rowsOf category categories).countP (first < ·)
      = (categories.drop (first + 1)).countP (· == some category) := by
  induction categories using List.reverseRecOn with
  | nil => simp [rowsOf]
  | append_singleton categories next ih =>
      rw [rowsOf_snoc, List.countP_append, ih, List.drop_append, List.countP_append]
      congr 1
      rcases Nat.lt_or_ge first categories.length with hlt | hge
      · have hdrop : first + 1 - categories.length = 0 := by omega
        rw [hdrop, List.drop_zero]
        split <;> simp_all
      · have hdrop : 1 ≤ first + 1 - categories.length := by omega
        rw [List.drop_eq_nil_of_le (by simpa using hdrop)]
        split <;> simp_all

/-! ## Paired rows -/

/-- Two rows of one category, with fewer than `depth` of its rows in between. -/
def Paired (depth : Nat) (categories : List (Option UInt64)) (p : MixedPair) : Prop :=
  p.first < p.second
    ∧ categories[p.first]? = some (some p.category)
    ∧ categories[p.second]? = some (some p.category)
    ∧ countBetween (· == some p.category) categories p.first p.second < depth

theorem mem_recent_rowsOf {depth : Nat} {category : UInt64} {categories : List (Option UInt64)}
    {row : Nat} :
    row ∈ recent depth (rowsOf category categories) ↔
      categories[row]? = some (some category)
        ∧ (categories.drop (row + 1)).countP (· == some category) < depth := by
  rw [mem_recent_iff (rowsOf_ascending category categories), mem_rowsOf, countP_rowsOf]

/-- The pairs that one more row brings are those with the recent rows of its
category. -/
theorem paired_snoc {depth : Nat} {seen : List (Option UInt64)} {next : Option UInt64}
    {p : MixedPair} :
    Paired depth (seen ++ [next]) p ↔
      Paired depth seen p ∨ next = some p.category ∧ p.second = seen.length
        ∧ p.first ∈ recent depth (rowsOf p.category seen) := by
  obtain ⟨category, first, second⟩ := p
  simp only [Paired, mem_recent_rowsOf]
  rcases Nat.lt_trichotomy second seen.length with hlt | rfl | hgt
  · have hne : second ≠ seen.length := Nat.ne_of_lt hlt
    rw [countBetween_snoc _ _ _ _ (Nat.le_of_lt hlt), List.getElem?_append_left hlt]
    simp only [hne, false_and, and_false, or_false]
    refine and_congr_right (fun hfirst => ?_)
    rw [List.getElem?_append_left (Nat.lt_trans hfirst hlt)]
  · have hnone : seen[seen.length]? = none := List.getElem?_eq_none (Nat.le_refl _)
    rw [countBetween_snoc _ _ _ _ (Nat.le_refl _), countBetween_length,
      List.getElem?_concat_length, hnone]
    simp only [reduceCtorEq, false_and, and_false, false_or, true_and, Option.some.injEq]
    constructor
    · rintro ⟨hfirst, hrow, hnext, hdepth⟩
      rw [List.getElem?_append_left hfirst] at hrow
      exact ⟨hnext, hrow, hdepth⟩
    · rintro ⟨hnext, hrow, hdepth⟩
      have hfirst : first < seen.length := (List.getElem?_eq_some_iff.mp hrow).1
      rw [List.getElem?_append_left hfirst]
      exact ⟨hfirst, hrow, hnext, hdepth⟩
  · have hne : second ≠ seen.length := Nat.ne_of_gt hgt
    have hnone : seen[second]? = none := List.getElem?_eq_none (Nat.le_of_lt hgt)
    have hnone' : (seen ++ [next])[second]? = none := by
      apply List.getElem?_eq_none
      rw [List.length_append]
      exact hgt
    simp [hnone, hnone', hne]

/-! ## Streaming the rows -/

/-- The order in which pairs arise. -/
def MixedPair.Before (p q : MixedPair) : Prop :=
  p.second < q.second ∨ p.second = q.second ∧ p.first < q.first

theorem MixedPair.Before.ne {p q : MixedPair} (h : p.Before q) : p ≠ q := by
  rintro rfl
  unfold MixedPair.Before at h
  omega

namespace Pooling

/-- What pooling knows after the rows `seen`. -/
structure Reflects (depth : Nat) (seen : List (Option UInt64)) (s : Progress) : Prop where
  row_eq : s.row = seen.length
  depth_eq : s.pools.depth = depth
  events_eq : ∀ category, s.pools.events category = recent depth (rowsOf category seen)
  mem_pairs : ∀ p, p ∈ s.pairs.toList ↔ Paired depth seen p
  ordered : s.pairs.toList.Pairwise MixedPair.Before

theorem pairs_step_some (s : Progress) (category : UInt64) :
    (s.step (some category)).pairs.toList =
      s.pairs.toList ++ (s.pools.events category).map fun first => ⟨category, first, s.row⟩ := by
  simp [Progress.step]

theorem reflects_start {depth : Nat} {pools : Pools Nat} (hpools : Pools.ofDepth depth = .ok pools) :
    Reflects depth [] ⟨pools, ∅, #[], 0, 0⟩ where
  row_eq := rfl
  depth_eq := by
    unfold Pools.ofDepth at hpools
    split at hpools
    · obtain rfl := Except.ok.inj hpools
      rfl
    · cases hpools
  events_eq category := by
    rw [Pools.events_of_ofDepth hpools]
    exact (recent_nil depth).symm
  mem_pairs p := by simp [Paired]
  ordered := .nil

theorem step_reflects {depth : Nat} (hpos : 0 < depth) {seen : List (Option UInt64)}
    {s : Progress} (h : Reflects depth seen s) (next : Option UInt64) :
    Reflects depth (seen ++ [next]) (s.step next) := by
  have hrow : s.row + 1 = (seen ++ [next]).length := by simp [h.row_eq]
  cases next with
  | none =>
      refine ⟨hrow, h.depth_eq, fun category => ?_, fun p => ?_, h.ordered⟩
      · rw [rowsOf_snoc, if_neg (by simp), List.append_nil]
        exact h.events_eq category
      · rw [paired_snoc]
        show p ∈ s.pairs.toList ↔ _
        simp [h.mem_pairs]
  | some category =>
      refine ⟨hrow, h.depth_eq, fun other => ?_, fun p => ?_, ?_⟩
      · rw [rowsOf_snoc, ← h.row_eq]
        simp only [Option.some.injEq]
        exact events_insert_recent hpos h.depth_eq h.events_eq category other s.row
      · rw [pairs_step_some, List.mem_append, h.mem_pairs, paired_snoc, h.events_eq, h.row_eq,
          List.mem_map]
        refine or_congr_right ?_
        constructor
        · rintro ⟨first, hfirst, rfl⟩
          exact ⟨rfl, rfl, hfirst⟩
        · rintro ⟨hcategory, hsecond, hfirst⟩
          obtain rfl := Option.some.inj hcategory
          exact ⟨p.first, hfirst, by rw [← hsecond]⟩
      · rw [pairs_step_some, h.events_eq, List.pairwise_append]
        refine ⟨h.ordered, ?_, fun p hp q hq => ?_⟩
        · rw [List.pairwise_map]
          exact ((rowsOf_ascending category seen).sublist (recent_sublist depth _)).imp
            fun hlt => Or.inr ⟨rfl, hlt⟩
        · -- the second rows of earlier pairs have been seen
          obtain ⟨-, -, hsecond, -⟩ := (h.mem_pairs p).mp hp
          have hlt := (List.getElem?_eq_some_iff.mp hsecond).1
          obtain ⟨first, -, rfl⟩ := List.mem_map.mp hq
          exact Or.inl (by rw [h.row_eq]; exact hlt)

theorem foldl_step_reflects {depth : Nat} (hpos : 0 < depth) (rest : List (Option UInt64)) :
    ∀ {seen : List (Option UInt64)} {s : Progress}, Reflects depth seen s →
      Reflects depth (seen ++ rest) (rest.foldl Progress.step s) := by
  induction rest with
  | nil =>
      intro seen s h
      simpa using h
  | cons next rest ih =>
      intro seen s h
      simpa using ih (step_reflects hpos h next)

/-- Mixing succeeds for every depth but 0, and ends in what reflects all rows. -/
theorem exists_ofCategories (categories : List (Option UInt64)) {depth : Nat}
    (hpos : 0 < depth) :
    ∃ s, ofCategories categories depth = .ok s.outcome ∧ Reflects depth categories s := by
  have hpools : Pools.ofDepth depth = .ok (⟨depth, hpos, ∅⟩ : Pools Nat) := dif_pos hpos
  refine ⟨_, ?_, foldl_step_reflects hpos categories (reflects_start hpools)⟩
  rw [ofCategories, hpools]

theorem pairs_eq_nil_iff {depth : Nat} (hpos : 0 < depth) {categories : List (Option UInt64)}
    {s : Progress} (h : Reflects depth categories s) :
    s.pairs.toList = [] ↔ ∀ (category : UInt64) (i j : Nat),
      categories[i]? = some (some category) → categories[j]? = some (some category) → i = j := by
  constructor
  · intro hnil
    -- the later of two rows has a recent partner
    have hlater : ∀ (category : UInt64) (i j : Nat),
        categories[i]? = some (some category) →
          categories[j]? = some (some category) → ¬ i < j := by
      intro category i j hi hj hlt
      have hmem : i ∈ rowsOf category (categories.take j) := by
        rw [mem_rowsOf, List.getElem?_take_of_lt hlt, hi]
      obtain ⟨first, hfirst⟩ := List.exists_mem_of_ne_nil _
        (recent_ne_nil hpos (List.ne_nil_of_mem hmem))
      obtain ⟨hrow, hcount⟩ := mem_recent_rowsOf.mp hfirst
      have hbefore : first < j := by
        have := (List.getElem?_eq_some_iff.mp hrow).1
        rw [List.length_take] at this
        omega
      rw [List.getElem?_take_of_lt hbefore] at hrow
      have hpair := (h.mem_pairs ⟨category, first, j⟩).mpr ⟨hbefore, hrow, hj, hcount⟩
      rw [hnil] at hpair
      cases hpair
    intro category i j hi hj
    exact Nat.le_antisymm (Nat.le_of_not_lt (hlater category j i hj hi))
      (Nat.le_of_not_lt (hlater category i j hi hj))
  · intro honce
    rw [List.eq_nil_iff_forall_not_mem]
    intro p hp
    obtain ⟨hlt, hfirst, hsecond, -⟩ := (h.mem_pairs p).mp hp
    exact Nat.ne_of_lt hlt (honce p.category _ _ hfirst hsecond)

/-- Two rows are paired, once, exactly where they have one category and fewer than
`depth` of its rows lie between them; the pairs come in the order of their second and
then of their first row. A depth of 0 is refused. -/
theorem ofCategories_pairs (categories : List (Option UInt64)) :
    (∀ depth, 0 < depth → ∃ result, ofCategories categories depth = .ok result ∧
      (∀ category first second, ⟨category, first, second⟩ ∈ result.pairs ↔
        first < second
          ∧ categories[first]? = some (some category)
          ∧ categories[second]? = some (some category)
          ∧ countBetween (· == some category) categories first second < depth) ∧
      result.pairs.Nodup ∧
      result.pairs.Pairwise (fun p q =>
        p.second < q.second ∨ p.second = q.second ∧ p.first < q.first) ∧
      (result.pairs = [] ↔ ∀ (category : UInt64) (i j : Nat),
        categories[i]? = some (some category) →
          categories[j]? = some (some category) → i = j)) ∧
    ofCategories categories 0 = .error .zeroPoolDepth := by
  refine ⟨fun depth hpos => ?_, rfl⟩
  obtain ⟨s, hs, h⟩ := exists_ofCategories categories hpos
  exact ⟨s.outcome, hs, fun category first second => h.mem_pairs ⟨category, first, second⟩,
    h.ordered.imp MixedPair.Before.ne, h.ordered, pairs_eq_nil_iff hpos h⟩

/-- With pools of one event, only neighbours of a category are paired. -/
theorem ofCategories_pairs_depth_one :
    0 < 1 ∧ ∃ result,
      ofCategories [some 7, none, some 7, some 3, some 7] 1 = .ok result ∧
        ⟨7, 2, 4⟩ ∈ result.pairs ∧ ⟨7, 0, 4⟩ ∉ result.pairs := by
  obtain ⟨result, hresult, hmem, -⟩ :=
    (ofCategories_pairs [some 7, none, some 7, some 3, some 7]).1 1 (by decide)
  refine ⟨by decide, result, hresult, (hmem 7 2 4).mpr (by decide), fun hfar => ?_⟩
  exact absurd ((hmem 7 0 4).mp hfar) (by decide)

end Pooling

end EventMixing
