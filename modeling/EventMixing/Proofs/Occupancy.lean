import Mathlib.Data.List.Perm.Subperm
import EventMixing.Proofs.Cells
import EventMixing.Proofs.Tally
import EventMixing.Proofs.Window
import EventMixing.Report.Occupancy
import EventMixing.Report.Summary
import EventMixing.Table.Categorize

/-!
# The occupancy report of a run

The report's counts come from pooling, its bins from decoding each category once more.
`binsOf_of_decode?` says that decoding loses nothing on the way: each axis of the grid
is listed, with the bounds of the decoded bin. So an event lies within the bounds of all
listed bins exactly if the category is its own (`holds_iff_categorize?`), and the events
that pooling counted for a category are the ones that the listed bounds describe.

`Describes` is what a report tells of its run; `build_describes_run` is that the report
of every run tells just that, and that the summary of the run has the same counts.
-/

namespace EventMixing

/-! ## The bins of a category -/

/-- The item tells of the axis and of one of its bins. -/
def Axis.ListedAs (axis : Axis) (item : ReportedBin) : Prop :=
  item.observable = axis.observable ∧
    axis.binBounds? item.bin = some (item.lower, item.upper)

/-- The event's value lies within the listed bounds. -/
def ReportedBin.Holds (item : ReportedBin) (values : Observables) : Prop :=
  item.lower ≤ values.get item.observable ∧ values.get item.observable < item.upper

/-- The event's values lie within the bounds of all listed bins. -/
def ReportedCategory.Holds (entry : ReportedCategory) (values : Observables) : Prop :=
  ∀ item ∈ entry.bins, item.Holds values

instance (item : ReportedBin) (values : Observables) : Decidable (item.Holds values) :=
  inferInstanceAs (Decidable (_ ∧ _))

instance (entry : ReportedCategory) (values : Observables) : Decidable (entry.Holds values) :=
  inferInstanceAs (Decidable (∀ item ∈ entry.bins, item.Holds values))

theorem Axis.ListedAs.inBin_iff {axis : Axis} {item : ReportedBin} (h : axis.ListedAs item)
    (values : Observables) :
    axis.InBin item.bin (values.get axis.observable) ↔ item.Holds values := by
  obtain ⟨hobservable, hbounds⟩ := h
  rw [InBin, hbounds, ReportedBin.Holds, hobservable]
  constructor
  · rintro ⟨_, _, ⟨⟩, hvalue⟩
    exact hvalue
  · exact fun hvalue => ⟨_, _, rfl, hvalue⟩

/-- The bins of listed axes hold an event exactly if the listed bounds do. -/
theorem inCell_iff_of_listed {axes : List Axis} {items : List ReportedBin}
    (h : List.Forall₂ Axis.ListedAs axes items) (values : Observables) :
    values.InCell axes (items.map (·.bin)) ↔ ∀ item ∈ items, item.Holds values := by
  induction h with
  | nil => simp [Observables.InCell]
  | cons hitem _ ih =>
      rw [List.map_cons, Observables.InCell, List.forall₂_cons, hitem.inBin_iff,
        List.forall_mem_cons]
      exact and_congr_right fun _ => ih

namespace OccupancyReport

/-- The item for a bin of an axis, if the axis has the bin. -/
def binOf? : Axis × Nat → Option ReportedBin
  | (axis, bin) =>
    (axis.binBounds? bin).map fun (lower, upper) => ⟨axis.observable, bin, lower, upper⟩

theorem exists_binOf? {axis : Axis} {bin : Nat} (h : bin < axis.binCount) :
    ∃ item, binOf? (axis, bin) = some item ∧ axis.ListedAs item ∧ item.bin = bin := by
  obtain ⟨lower, upper, hbounds⟩ := Axis.exists_binBounds? h
  refine ⟨⟨axis.observable, bin, lower, upper⟩, ?_, ⟨rfl, hbounds⟩, rfl⟩
  rw [binOf?, hbounds]
  rfl

/-- Every axis of a cell is listed, with the cell's bin. -/
theorem filterMap_binOf? {axes : List Axis} {bins : List Nat} (h : IsCell axes bins) :
    List.Forall₂ Axis.ListedAs axes ((axes.zip bins).filterMap binOf?) ∧
      ((axes.zip bins).filterMap binOf?).map (·.bin) = bins := by
  induction h with
  | nil => exact ⟨.nil, rfl⟩
  | cons hbin _ ih =>
      obtain ⟨item, hitem, hlisted, rfl⟩ := exists_binOf? hbin
      rw [List.zip_cons_cons, List.filterMap_cons_some hitem]
      exact ⟨.cons hlisted ih.1, congrArg _ ih.2⟩

theorem binsOf_of_decode? {g : Grid} {c : UInt64} {bins : List Nat}
    (h : g.decode? c = some bins) :
    List.Forall₂ Axis.ListedAs g.axes (binsOf g c) ∧ (binsOf g c).map (·.bin) = bins := by
  have hbins : binsOf g c = (g.axes.zip bins).filterMap binOf? := by
    rw [binsOf, Grid.cell?, h]
    rfl
  rw [hbins]
  exact filterMap_binOf? (Grid.isCell_of_decode? h)

/-- The bins listed for a category of a built grid are its own. -/
theorem binsOf_of_lt_total {b : Blueprint} {g : Grid} (hb : b.build = .ok g) {c : UInt64}
    (h : c < g.total) :
    List.Forall₂ Axis.ListedAs b.axes (binsOf g c) ∧
      g.encode? ((binsOf g c).map (·.bin)) = some c := by
  obtain ⟨bins, hdecode⟩ := Grid.exists_decode?_iff.mpr h
  obtain ⟨hlisted, hbins⟩ := binsOf_of_decode? hdecode
  rw [hbins, ← axes_of_build hb]
  exact ⟨hlisted, (Grid.encode?_eq_some_iff_decode? hb).mpr hdecode⟩

/-- A category is that of an event exactly if all bins listed for it hold the event. -/
theorem categorize?_eq_some_iff_of_listed {b : Blueprint} {g : Grid} (hb : b.build = .ok g)
    {items : List ReportedBin} (hlisted : List.Forall₂ Axis.ListedAs b.axes items) {c : UInt64}
    (hencode : g.encode? (items.map (·.bin)) = some c) (values : Observables) :
    g.categorize? values = some c ↔ ∀ item ∈ items, item.Holds values := by
  have hne : g.axes ≠ [] := (Grid.exists_encode?_iff.mp ⟨_, hencode⟩).1
  rw [← axes_of_build hb] at hlisted
  rw [Grid.categorize?_eq_some_iff_binIndices? hb hencode, Grid.binIndices?_eq_some_iff,
    inCell_iff_of_listed hlisted]
  exact and_iff_right hne

/-- An event lies within the bounds listed for a category exactly if it is its own. -/
theorem holds_iff_categorize? {b : Blueprint} {g : Grid} (hb : b.build = .ok g)
    {entry : ReportedCategory} (hlisted : List.Forall₂ Axis.ListedAs b.axes entry.bins)
    (hencode : g.encode? (entry.bins.map (·.bin)) = some entry.category)
    (values : Observables) :
    entry.Holds values ↔ g.categorize? values = some entry.category :=
  (categorize?_eq_some_iff_of_listed hb hlisted hencode values).symm

/-! ## The report and the run -/

/-- What an entry tells of its category: the bin on each axis, and how many rows lie
within the bounds of these bins. -/
structure EntryDescribes (b : Blueprint) (g : Grid) (rows : List Observables)
    (entry : ReportedCategory) : Prop where
  bins_ne_nil : entry.bins ≠ []
  bins_listed : List.Forall₂ Axis.ListedAs b.axes entry.bins
  encode_bins : g.encode? (entry.bins.map (·.bin)) = some entry.category
  events_eq : entry.events = rows.countP entry.Holds

/-- What a report tells of rows that were categorized on a grid and mixed. -/
structure Describes (b : Blueprint) (g : Grid) (rows : List Observables)
    (report : OccupancyReport) : Prop where
  ascending : (report.categories.map (·.category)).Pairwise (· < ·)
  mem_categories : ∀ c, c ∈ report.categories.map (·.category) ↔
    ∃ row ∈ rows, g.categorize? row = some c
  entries : ∀ entry ∈ report.categories, EntryDescribes b g rows entry
  sum_events : (report.categories.map (·.events)).sum = report.categorized
  sum_mixedPairs : (report.categories.map (·.mixedPairs)).sum = report.mixedPairs
  categorized_add_rejected : report.categorized + report.rejected = report.rows
  rows_eq : report.rows = rows.length
  occupied_eq : report.occupiedCategories = report.categories.length
  occupied_le : report.occupiedCategories ≤ report.totalCategories.toNat

/-- The entry for an occupied category. -/
def entryOf (g : Grid) (o : Occupancy) : ReportedCategory :=
  ⟨o.category, o.events, o.mixedPairs, binsOf g o.category⟩

variable {b : Blueprint} {g : Grid} {rows : List Observables} {p : Pooling}

theorem mem_category_iff (h : Pooling.Accounts (g.categorizeRows rows) p) (c : UInt64) :
    c ∈ p.occupancy.map (·.category) ↔ ∃ row ∈ rows, g.categorize? row = some c := by
  rw [h.mem_map_category, Grid.categorizeRows, List.mem_map]

theorem lt_total_of_mem (hb : b.build = .ok g) (h : Pooling.Accounts (g.categorizeRows rows) p)
    {c : UInt64} (hc : c ∈ p.occupancy.map (·.category)) : c < g.total := by
  obtain ⟨row, -, hrow⟩ := (mem_category_iff h c).mp hc
  exact Grid.lt_total_of_categorize? hb hrow

theorem entryOf_describes (hb : b.build = .ok g)
    (h : Pooling.Accounts (g.categorizeRows rows) p) {o : Occupancy} (ho : o ∈ p.occupancy) :
    EntryDescribes b g rows (entryOf g o) := by
  have hlt : o.category < g.total := lt_total_of_mem hb h (List.mem_map_of_mem ho)
  obtain ⟨hlisted, hencode⟩ := binsOf_of_lt_total hb hlt
  refine ⟨fun hnil => ?_, hlisted, hencode, ?_⟩
  · -- without a bin there is no axis, but then nothing is encoded
    have hne := (Grid.exists_encode?_iff.mp ⟨_, hencode⟩).1
    rw [axes_of_build hb] at hne
    rw [show binsOf g o.category = [] from hnil] at hlisted
    exact hne (List.forall₂_nil_right_iff.mp hlisted)
  · have hevents : o.events = (g.categorizeRows rows).count (some o.category) :=
      ((h.mem_occupancy o).mp ho).2.1
    rw [entryOf, hevents, Grid.categorizeRows, List.count_eq_countP, List.countP_map]
    refine List.countP_congr fun row _ => ?_
    rw [decide_eq_true_iff, holds_iff_categorize? hb hlisted hencode]
    exact beq_iff_eq

/-- Words that ascend below a bound are no more than the bound. -/
theorem length_le_of_ascending {cs : List UInt64} (h : cs.Pairwise (· < ·)) {bound : UInt64}
    (hlt : ∀ c ∈ cs, c < bound) : cs.length ≤ bound.toNat := by
  have hnodup : (cs.map UInt64.toNat).Nodup :=
    List.Nodup.map (fun _ _ => UInt64.toNat_inj.mp) (h.imp UInt64.ne_of_lt)
  have hsubset : cs.map UInt64.toNat ⊆ List.range bound.toNat := by
    intro n hn
    obtain ⟨c, hc, rfl⟩ := List.mem_map.mp hn
    exact List.mem_range.mpr (UInt64.lt_iff_toNat_lt.mp (hlt c hc))
  have hlength := (hnodup.subperm hsubset).length_le
  rwa [List.length_map, List.length_range] at hlength

/-- The report that is built from the account of a run describes the run. -/
theorem describes_of_accounts (hb : b.build = .ok g)
    (h : Pooling.Accounts (g.categorizeRows rows) p) (origin : ReportOrigin)
    (timestamp : String) : Describes b g rows (build g p origin timestamp) := by
  have hbuild : (build g p origin timestamp).categories = p.occupancy.map (entryOf g) := rfl
  have hcategories : (p.occupancy.map (entryOf g)).map (·.category)
      = p.occupancy.map (·.category) := List.map_map
  have hlength : p.occupancy.length ≤ g.total.toNat := by
    rw [← List.length_map (·.category)]
    exact length_le_of_ascending h.ascending fun c => lt_total_of_mem hb h
  refine
    { ascending := ?_
      mem_categories := fun c => ?_
      entries := fun entry hentry => ?_
      sum_events := ?_
      sum_mixedPairs := ?_
      categorized_add_rejected := h.categorized_add_rejected
      rows_eq := ?_
      occupied_eq := ?_
      occupied_le := hlength }
  · rw [hbuild, hcategories]
    exact h.ascending
  · rw [hbuild, hcategories]
    exact mem_category_iff h c
  · rw [hbuild] at hentry
    obtain ⟨o, ho, rfl⟩ := List.mem_map.mp hentry
    exact entryOf_describes hb h ho
  · rw [hbuild, List.map_map]
    exact h.sum_events
  · rw [hbuild, List.map_map]
    exact h.sum_mixedPairs
  · exact h.rows_eq.trans (List.length_map _)
  · exact (List.length_map _).symm

/-- The report of a run has one entry for each category that occurs, ascending; each
lists a bin of every axis in order, bins that encode the category and whose bounds hold
just the events that it counts. The entries add up to the totals, and the totals to the
rows. The summary of the run has the same counts. -/
theorem build_describes_run (hb : b.build = .ok g) (rows : List Observables) {depth : Nat}
    (hdepth : 0 < depth) (origin : ReportOrigin) (timestamp : String) (s : Summary) :
    ∃ p, Pooling.ofCategories (g.categorizeRows rows) depth = .ok p ∧
      Describes b g rows (build g p origin timestamp) ∧
      (s.addPooling p).rows = (build g p origin timestamp).rows ∧
      (s.addPooling p).categorized = (build g p origin timestamp).categorized ∧
      (s.addPooling p).rejected = (build g p origin timestamp).rejected ∧
      (s.addPooling p).occupiedCategories = (build g p origin timestamp).occupiedCategories ∧
      (s.addPooling p).mixedPairs = (build g p origin timestamp).mixedPairs := by
  obtain ⟨after, hrun, -⟩ := Pooling.exists_ofCategories (g.categorizeRows rows) hdepth
  have haccounts := Pooling.accounts_of_ofCategories hrun
  exact ⟨after.outcome, hrun, describes_of_accounts hb haccounts origin timestamp,
    rfl, rfl, rfl, rfl, rfl⟩

/-- Two of three events share a cell, the third has no value and is rejected. -/
theorem build_describes_run_overlapping :
    Blueprint.overlapping.build = .ok .overlapping ∧ 0 < 1 ∧
      ∃ p, Pooling.ofCategories
          (Grid.overlapping.categorizeRows [.atOne, .unset, .atOne]) 1 = .ok p ∧
        Describes .overlapping .overlapping [.atOne, .unset, .atOne]
          (build .overlapping p ⟨"events.csv", "mixing.json", 1⟩ "") ∧
        (build .overlapping p ⟨"events.csv", "mixing.json", 1⟩ "").categories.map
          (fun entry => (entry.category, entry.bins.map (·.bin), entry.events)) =
            [(3, [1, 1], 2)] := by
  have hbuild : Blueprint.overlapping.build = .ok .overlapping := by decide
  obtain ⟨p, hp, h, -⟩ := build_describes_run hbuild [.atOne, .unset, .atOne] Nat.one_pos
    ⟨"events.csv", "mixing.json", 1⟩ "" ⟨0, 0, 0, 0, 4, 0, 1, none, none, none, none⟩
  have hrun : Pooling.ofCategories
      (Grid.overlapping.categorizeRows [.atOne, .unset, .atOne]) 1
        = .ok ⟨3, 2, 1, [⟨3, 2, 1⟩], [⟨3, 0, 2⟩]⟩ := by decide +kernel
  obtain rfl := Except.ok.inj (hp.symm.trans hrun)
  exact ⟨hbuild, Nat.one_pos, _, hp, h, by decide +kernel⟩

end OccupancyReport

end EventMixing
