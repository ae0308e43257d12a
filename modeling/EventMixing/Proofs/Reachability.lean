import Mathlib.Data.List.MinMax
import EventMixing.Proofs.Concatenation
import EventMixing.Proofs.Lookups
import EventMixing.Proofs.Occupancy
import EventMixing.Proofs.Reading

/-!
# Which categories events can have

Not every category of a grid has events. With two axes on one variable a single value has
to lie in a bin of each, and the cell is empty where the two bins are apart. Nothing else
can go wrong: if any two bins on a variable meet, then all of them have a value in common,
the lower edge of the one that begins last (`exists_value_of_meets`), and the values of
different variables are independent (`exists_holds_iff_meets`).

Without a second axis on any variable every category has events, for instance the one at
the lower edges of its bins. Both are in `reachable_iff_bins_meet`.
-/

namespace EventMixing

/-! ## Events by their values -/

namespace Observables

/-- The event with the given values. -/
def ofValues (value : Variable → Double) : Observables :=
  Variable.all.foldl (fun o v => o.set v (value v)) .unset

@[simp]
theorem get_ofValues (value : Variable → Double) (v : Variable) :
    (ofValues value).get v = value v := by
  rw [ofValues, get_foldl_set, if_pos (Variable.mem_all v)]

end Observables

/-! ## Bins with a value in common -/

/-- Each of the two bins begins before the other one ends. -/
def ReportedBin.Meets (p q : ReportedBin) : Prop := p.lower < q.upper ∧ q.lower < p.upper

instance (p q : ReportedBin) : Decidable (p.Meets q) := inferInstanceAs (Decidable (_ ∧ _))

/-- Bins any two of which meet have a value in common: the last lower edge among them lies
before all upper ones. -/
theorem exists_value_of_meets {items : List ReportedBin}
    (h : ∀ p ∈ items, ∀ q ∈ items, p.Meets q) :
    ∃ value, ∀ item ∈ items, item.lower ≤ value ∧ value < item.upper := by
  cases hlast : items.argmax (·.lower.key) with
  | none =>
      rw [List.argmax_eq_none] at hlast
      exact ⟨.nan, by simp [hlast]⟩
  | some last =>
      refine ⟨last.lower, fun item hitem => ?_⟩
      obtain ⟨hbefore, hafter⟩ := h last (List.argmax_mem hlast) item hitem
      have hkey := List.le_of_mem_argmax hitem hlast
      exact ⟨Double.le_def.mpr
        ⟨⟨(Double.lt_def.mp hafter).1.1, (Double.lt_def.mp hbefore).1.1⟩, hkey⟩, hbefore⟩

/-- Some event lies in all bins exactly if any two on one variable meet. -/
theorem exists_holds_iff_meets {items : List ReportedBin} :
    (∃ values : Observables, ∀ item ∈ items, item.Holds values) ↔
      ∀ p ∈ items, ∀ q ∈ items, p.observable = q.observable → p.Meets q := by
  constructor
  · rintro ⟨values, hholds⟩ p hp q hq hsame
    obtain ⟨hlower, hupper⟩ := hholds p hp
    obtain ⟨hlower', hupper'⟩ := hholds q hq
    rw [hsame] at hlower hupper
    exact ⟨Double.lt_of_le_of_lt hlower hupper', Double.lt_of_le_of_lt hlower' hupper⟩
  · intro hmeet
    -- one value for each variable, whatever the others are
    have hvalue : ∀ v : Variable, ∃ value, ∀ item ∈ items, item.observable = v →
        item.lower ≤ value ∧ value < item.upper := by
      intro v
      obtain ⟨value, hvalue⟩ :=
        @exists_value_of_meets (items.filter (·.observable = v)) fun p hp q hq => by
          simp only [List.mem_filter, decide_eq_true_eq] at hp hq
          exact hmeet p hp.1 q hq.1 (hp.2.trans hq.2.symm)
      exact ⟨value, fun item hitem hv => hvalue item (by simp [hitem, hv])⟩
    choose value hvalue using hvalue
    refine ⟨.ofValues value, fun item hitem => ?_⟩
    rw [ReportedBin.Holds, Observables.get_ofValues]
    exact hvalue item.observable item hitem rfl

namespace Grid

variable {b : Blueprint} {g : Grid} {c : UInt64}

/-! ## One axis for each variable -/

/-- Where no variable has two axes, the listed bounds are the ranges of their variables. -/
theorem binRange?_of_listed (hb : b.build = .ok g)
    (hdistinct : (b.axes.map (·.observable)).Nodup) {items : List ReportedBin}
    (hlisted : List.Forall₂ Axis.ListedAs b.axes items)
    (hdecode : g.decode? c = some (items.map (·.bin))) :
    ∀ item ∈ items, g.binRange? item.observable c = some (item.lower, item.upper) := by
  intro item hitem
  obtain ⟨p, hp, rfl⟩ := List.mem_iff_getElem.mp hitem
  have hlt : p < b.axes.length := hlisted.length_eq ▸ hp
  obtain ⟨hobservable, hbounds⟩ := hlisted.get hlt hp
  have haxis : b.axes[p]? = some b.axes[p] := List.getElem?_eq_getElem hlt
  refine binRange?_eq_some_iff.mpr ⟨b.axes[p], items[p].bin, ?_, hbounds⟩
  rw [decodePlace?_eq_some_iff hb]
  refine ⟨p, _, ?_, haxis, hdecode, by simp [hp]⟩
  rw [show items[p].observable = b.axes[p].observable from hobservable]
  exact Blueprint.lookup?_of_nodup hdistinct haxis

/-- The event at the lower edges of a category's bins. -/
def lowerEdges (g : Grid) (c : UInt64) : Observables :=
  .ofValues fun v => ((g.binRange? v c).map (·.1)).getD .nan

theorem get_lowerEdges {v : Variable} {lower upper : Double}
    (h : g.binRange? v c = some (lower, upper)) : (g.lowerEdges c).get v = lower := by
  rw [lowerEdges, Observables.get_ofValues, h]
  rfl

/-- A range holds its lower edge. -/
theorem lt_of_binRange? {v : Variable} {lower upper : Double}
    (h : g.binRange? v c = some (lower, upper)) : lower < upper := by
  obtain ⟨axis, bin, -, hbounds⟩ := binRange?_eq_some_iff.mp h
  exact Axis.lt_of_binBounds? hbounds

/-- A category has events exactly if any two of its bins on one variable meet. Without two
axes on one variable each category has them, namely all whose values lie in its ranges,
among them the event at the lower edges. -/
theorem reachable_iff_bins_meet (hb : b.build = .ok g) (hc : c < g.total) :
    (List.Forall₂ Axis.ListedAs b.axes (OccupancyReport.binsOf g c) ∧
      g.decode? c = some ((OccupancyReport.binsOf g c).map (·.bin)) ∧
      ((∃ values, g.categorize? values = some c) ↔
        ∀ p ∈ OccupancyReport.binsOf g c, ∀ q ∈ OccupancyReport.binsOf g c,
          p.observable = q.observable → p.Meets q)) ∧
    ((b.axes.map (·.observable)).Nodup →
      (∀ values : Observables,
        (∀ v lower upper, g.binRange? v c = some (lower, upper) →
          lower ≤ values.get v ∧ values.get v < upper) →
        g.categorize? values = some c) ∧
      (∀ v lower upper, g.binRange? v c = some (lower, upper) →
        (g.lowerEdges c).get v = lower) ∧
      g.categorize? (g.lowerEdges c) = some c) := by
  obtain ⟨hlisted, hencode⟩ := OccupancyReport.binsOf_of_lt_total hb hc
  have hdecode := (encode?_eq_some_iff_decode? hb).mp hencode
  have hcategory := OccupancyReport.categorize?_eq_some_iff_of_listed hb hlisted hencode
  refine ⟨⟨hlisted, hdecode, ?_⟩, fun hdistinct => ?_⟩
  · simp only [hcategory]
    exact exists_holds_iff_meets
  · have hrange := binRange?_of_listed hb hdistinct hlisted hdecode
    have hwithin : ∀ values : Observables,
        (∀ v lower upper, g.binRange? v c = some (lower, upper) →
          lower ≤ values.get v ∧ values.get v < upper) →
        g.categorize? values = some c :=
      fun values h => (hcategory values).mpr fun item hitem => h _ _ _ (hrange item hitem)
    refine ⟨hwithin, fun v lower upper h => get_lowerEdges h, hwithin _ ?_⟩
    intro v lower upper h
    have hlt := lt_of_binRange? h
    rw [get_lowerEdges h]
    exact ⟨Double.le_refl_of_lt hlt, hlt⟩

/-- Of the cells of two overlapping axes, the one of [0, 1) and [1, 3) has no events and the
one of [1, 2) and [1, 3) has some; on a single axis each has. -/
theorem reachable_iff_bins_meet_overlapping :
    Blueprint.overlapping.build = .ok overlapping ∧
      1 < overlapping.total ∧ (∀ values, overlapping.categorize? values ≠ some 1) ∧
      3 < overlapping.total ∧ (∃ values, overlapping.categorize? values = some 3) ∧
      ∃ three, Blueprint.threefold.build = .ok three ∧ 2 < three.total ∧
        (Blueprint.threefold.axes.map (·.observable)).Nodup ∧
        three.categorize? (three.lowerEdges 2) = some 2 := by
  have hbuild : Blueprint.overlapping.build = .ok overlapping := by decide
  have hone : 1 < overlapping.total := by decide
  have hthree : 3 < overlapping.total := by decide
  have hapart := (reachable_iff_bins_meet hbuild hone).1.2.2
  have hmeet := (reachable_iff_bins_meet hbuild hthree).1.2.2
  obtain ⟨three, hsingle⟩ := Blueprint.exists_build (b := Blueprint.threefold) (by decide)
  have htwo : 2 < three.total := by
    rw [UInt64.lt_iff_toNat_lt, Blueprint.total_of_build hsingle]
    decide
  have hdistinct : (Blueprint.threefold.axes.map (·.observable)).Nodup := by decide
  refine ⟨hbuild, hone, fun values h => ?_, hthree, hmeet.mpr (by decide), three, hsingle, htwo,
    hdistinct, ((reachable_iff_bins_meet hsingle htwo).2 hdistinct).2.2⟩
  exact absurd (hapart.mp ⟨values, h⟩) (by decide)

end Grid

end EventMixing
