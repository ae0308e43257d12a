import EventMixing.Proofs.Cells
import EventMixing.Proofs.Reading
import EventMixing.Proofs.Registration
import EventMixing.Proofs.Window

/-!
# What mixing a table means

From a configuration and a table to the pairs: `ofCategories_categorizeRows` says
which rows of the table end up as pairs, in terms of the cells that they lie in
and without a word of categories beyond the number that a pair carries.
-/

namespace EventMixing

namespace Grid

theorem categorizeRows_getElem?_eq_some_iff {g : Grid} {rows : List Observables} {row : Nat}
    {c : UInt64} :
    (g.categorizeRows rows)[row]? = some (some c) ↔ rows[row]?.bind g.categorize? = some c := by
  rw [categorizeRows, List.getElem?_map]
  cases rows[row]? <;> simp

/-- Two rows are paired exactly when they lie in one cell and fewer than `depth` rows
between them do. -/
theorem paired_categorizeRows_iff {b : Blueprint} {g : Grid} (hb : b.build = .ok g)
    {rows : List Observables} {depth : Nat} {p : MixedPair} :
    Paired depth (g.categorizeRows rows) p ↔
      p.first < p.second ∧ p.second < rows.length ∧ ∃ bins,
        rows[p.first]?.bind g.binIndices? = some bins
          ∧ rows[p.second]?.bind g.binIndices? = some bins
          ∧ g.encode? bins = some p.category
          ∧ countBetween (fun r => g.binIndices? r = some bins) rows p.first p.second
              < depth := by
  obtain ⟨category, first, second⟩ := p
  simp only [Paired, categorizeRows_getElem?_eq_some_iff]
  -- once the cell is known, its number can be replaced by its bins everywhere
  have hcell : ∀ {bins}, g.encode? bins = some category → ∀ row : Nat,
      rows[row]?.bind g.categorize? = some category ↔
        rows[row]?.bind g.binIndices? = some bins := by
    intro bins hencode row
    simp only [Option.bind_eq_some_iff, categorize?_eq_some_iff_binIndices? hb hencode]
  have hcount : ∀ {bins}, g.encode? bins = some category →
      countBetween (· == some category) (g.categorizeRows rows) first second
        = countBetween (fun r => g.binIndices? r = some bins) rows first second := by
    intro bins hencode
    rw [categorizeRows, countBetween_map]
    congr 1
    funext r
    rw [Bool.eq_iff_iff]
    simp [categorize?_eq_some_iff_binIndices? hb hencode]
  constructor
  · rintro ⟨hlt, hfirst, hsecond, hdepth⟩
    obtain ⟨r, hr, hcategory⟩ := Option.bind_eq_some_iff.mp hsecond
    obtain ⟨bins, -, hencode⟩ := categorize?_eq_some_iff.mp hcategory
    exact ⟨hlt, (List.getElem?_eq_some_iff.mp hr).1, bins, (hcell hencode first).mp hfirst,
      (hcell hencode second).mp hsecond, hencode, hcount hencode ▸ hdepth⟩
  · rintro ⟨hlt, -, bins, hfirst, hsecond, hencode, hdepth⟩
    exact ⟨hlt, (hcell hencode first).mpr hfirst, (hcell hencode second).mpr hsecond,
      (hcount hencode).symm ▸ hdepth⟩

end Grid

/-- Mixing a table on a configured grid pairs, once, exactly the rows that lie in one
cell with fewer than `depth` rows of that cell between them, in the order of the
second and then of the first row. -/
theorem ofCategories_categorizeRows {c : MixingConfig} {initial used : VariableSet} {g : Grid}
    {t : Table} {rows : List Observables} {depth : Nat}
    (hgrid : c.toGrid initial = (.ok g, used)) (hrows : t.observables used = .ok rows)
    (hdepth : 0 < depth) :
    (rows.length = t.rows ∧ ∀ row r, rows[row]? = some r →
      ∀ v, r.get v = if used.contains v then t.valueAt v row else .nan) ∧
    ∃ result, Pooling.ofCategories (g.categorizeRows rows) depth = .ok result ∧
      (∀ category first second, ⟨category, first, second⟩ ∈ result.pairs ↔
        first < second ∧ second < rows.length ∧ ∃ bins,
          rows[first]?.bind g.binIndices? = some bins
            ∧ rows[second]?.bind g.binIndices? = some bins
            ∧ g.encode? bins = some category
            ∧ countBetween (fun r => g.binIndices? r = some bins) rows first second < depth) ∧
      result.pairs.Nodup ∧
      result.pairs.Pairwise (fun p q =>
        p.second < q.second ∨ p.second = q.second ∧ p.first < q.first) := by
  obtain ⟨b, hb⟩ := MixingConfig.exists_build hgrid
  obtain ⟨s, hs, h⟩ := Pooling.exists_ofCategories (g.categorizeRows rows) hdepth
  refine ⟨?_, s.outcome, hs, fun category first second => ?_, h.ordered.imp MixedPair.Before.ne,
    h.ordered⟩
  · obtain ⟨-, rfl⟩ := Table.observables_eq_ok_iff.mp hrows
    refine ⟨by simp, fun row r hr v => ?_⟩
    obtain ⟨hlt, rfl⟩ := List.getElem?_eq_some_iff.mp hr
    rw [List.getElem_map, List.getElem_range, Table.get_rowAt]
  · exact (h.mem_pairs ⟨category, first, second⟩).trans (Grid.paired_categorizeRows_iff hb)

/-- The axes of `Blueprint.overlapping`. -/
def MixingConfig.overlapping : MixingConfig where
  axes := Blueprint.overlapping.axes.map fun axis => ⟨axis.observable, axis.edges.toList⟩
  mixingDepth := none

/-- Three events in one cell of `Grid.overlapping`, and one without a value. -/
def Table.fourEvents : Table where
  columns := [⟨"vtx_z", .double
    [some ⟨0x3FF0000000000000⟩, none, some ⟨0x3FF0000000000000⟩, some ⟨0x3FF0000000000000⟩]⟩]
  sized := by decide
  distinct := by decide

/-- With pools of one event, the first event is driven out by the third. -/
theorem ofCategories_categorizeRows_overlapping :
    MixingConfig.overlapping.toGrid VariableSet.empty
        = (.ok Grid.overlapping, VariableSet.empty.insert .vtxZ) ∧
      0 < 1 ∧ ∃ rows result,
        Table.fourEvents.observables (VariableSet.empty.insert .vtxZ) = .ok rows ∧
          Pooling.ofCategories (Grid.overlapping.categorizeRows rows) 1 = .ok result ∧
          ⟨3, 0, 2⟩ ∈ result.pairs ∧ ⟨3, 0, 3⟩ ∉ result.pairs := by
  have hgrid : MixingConfig.overlapping.toGrid VariableSet.empty
      = (.ok Grid.overlapping, VariableSet.empty.insert .vtxZ) := by decide +kernel
  have hrows : Table.fourEvents.observables (VariableSet.empty.insert .vtxZ)
      = .ok [.atOne, .unset, .atOne, .atOne] := by decide +kernel
  have hone : Grid.overlapping.binIndices? .atOne = some [1, 1] := by decide +kernel
  obtain ⟨-, result, hresult, hmem, -⟩ := ofCategories_categorizeRows hgrid hrows Nat.one_pos
  refine ⟨hgrid, Nat.one_pos, _, result, hrows, hresult, (hmem 3 0 2).mpr ?_, fun hfar => ?_⟩
  · exact ⟨by decide, by decide, [1, 1], hone, hone, by decide, by decide +kernel⟩
  · obtain ⟨-, -, bins, hfirst, -, -, hdepth⟩ := (hmem 3 0 3).mp hfar
    obtain rfl := Option.some.inj (hone.symm.trans hfirst)
    exact absurd hdepth (by decide +kernel)

end EventMixing
