import EventMixing.Proofs.ConfiguredAxes
import EventMixing.Proofs.Drawing
import EventMixing.Proofs.Locations
import EventMixing.Proofs.Occupancy

/-!
# Printing the cell of a category

A category's cell is printed if its configuration is there, makes a grid, and the grid has
the category. `NoCell` says what is reported else, with one constructor for each step that
may fail, every step in front of it having gone well; `noCell_or_hasCell` is that there is
no other way to fail. A grid without axes has no category, so the range that the last step
names is then empty.

What is printed is a drawn table with one row for each configured axis. `PrintsCell` says what
the texts of the rows are: the bins and bounds that an occupancy report lists for the category
(`printsCell_of_toGrid`), which hold just the events of the category. The drawing has a line
for each row with these texts in it (`drawn_cellTable`).
-/

namespace EventMixing

open Command (outcome after)

namespace MixingConfig

/-! ## Reading the configuration -/

/-- The file of a path spells a configuration, and not one that asks for a depth of zero. -/
structure ReadFrom (w : World) (path : Path) (c : MixingConfig) : Prop where
  exists_text : ∃ text, w.files.read path = .ok (.text text) ∧
    schema.reader.readText text.toList = .ok c
  depth_ne_zero : c.mixingDepth ≠ some 0

/-- Why no configuration is read from a path. -/
inductive Unread (w : World) (path : Path) : Failure → Prop
  | noFile {fault : FileFault} (h : w.files.read path = .error fault) :
      Unread w path ⟨["Failed to read mixing config: " ++ path.text], .file fault⟩
  | noText {t : Table} (h : w.files.read path = .ok (.table t)) :
      Unread w path ⟨["Failed to read mixing config: " ++ path.text], .file .notText⟩
  | misspelt {text : String} {fault : Json.Fault} (hfile : w.files.read path = .ok (.text text))
      (h : schema.reader.readText text.toList = .error fault) :
      Unread w path ⟨["Invalid mixing config: " ++ path.text,
        "Failed to parse mixing config JSON"], .json fault⟩
  | zeroDepth {text : String} {c : MixingConfig} (hfile : w.files.read path = .ok (.text text))
      (hspelt : schema.reader.readText text.toList = .ok c) (h : c.mixingDepth = some 0) :
      Unread w path ⟨["Invalid mixing config: " ++ path.text],
        .refused "mixing_depth must be at least 1"⟩

section Reading

variable {w : World} {path : Path} {c : MixingConfig} {f : Failure}

theorem outcome_load_of_readFrom (h : c.ReadFrom w path) : outcome w (load path) = .ok c := by
  obtain ⟨text, hfile, hspelt⟩ := h.exists_text
  rw [outcome_load, hfile]
  show (ofText text).within _ = .ok c
  rw [ofText, hspelt]
  dsimp only
  rw [if_neg h.depth_ne_zero]
  rfl

theorem outcome_load_of_unread (h : Unread w path f) : outcome w (load path) = .error f := by
  rw [outcome_load]
  cases h with
  | noFile h => rw [h]; rfl
  | noText h => rw [h]; rfl
  | @misspelt text fault hfile h =>
      rw [hfile]
      show (ofText text).within _ = _
      rw [ofText, h]
      rfl
  | @zeroDepth text c hfile hspelt h =>
      rw [hfile]
      show (ofText text).within _ = _
      rw [ofText, hspelt]
      dsimp only
      rw [if_pos h]
      rfl

theorem unread_or_readFrom (w : World) (path : Path) :
    (∃ f, Unread w path f) ∨ ∃ c : MixingConfig, c.ReadFrom w path := by
  cases hfile : w.files.read path with
  | error fault => exact Or.inl ⟨_, .noFile hfile⟩
  | ok content =>
      cases content with
      | table t => exact Or.inl ⟨_, .noText hfile⟩
      | text text =>
          cases hspelt : schema.reader.readText text.toList with
          | error fault => exact Or.inl ⟨_, .misspelt hfile hspelt⟩
          | ok c =>
              by_cases hdepth : c.mixingDepth = some 0
              · exact Or.inl ⟨_, .zeroDepth hfile hspelt hdepth⟩
              · exact Or.inr ⟨c, ⟨text, hfile, hspelt⟩, hdepth⟩

theorem after_load (w : World) (path : Path) : after w (load path) = w := by
  have hread : after w (Command.within ("Failed to read mixing config: " ++ path.text) do
      Command.ofOutcome (textOf (← Command.readFile path))) = w := by
    rw [Command.within, Command.after_adapt, Command.after_bind]
    split <;> rfl
  rw [load, Command.after_bind]
  split
  · rw [hread, Command.within, Command.after_adapt]
    rfl
  · exact hread

end Reading

end MixingConfig

/-! ## What a row shows -/

/-- The texts of the row for an axis, with its position, and the bin on it. -/
def listedRow (position : Nat) (axis : Axis) (item : ReportedBin) : List String :=
  [toString position, axis.observable.name,
    toString item.bin ++ " / " ++ toString axis.binCount,
    "[" ++ item.lower.render .prose ++ ", " ++ item.upper.render .prose ++ ")"]

/-- The texts in the rows of a cell. -/
def cellTexts (cell : List (Axis × Nat)) : List (List String) :=
  (cellTable cell).rows.map (·.map (·.text))

theorem plain_cellTable (cell : List (Axis × Nat)) : (cellTable cell).Plain := by
  have hplain : ∀ texts : List String, ∀ c ∈ texts.map Cell.ofText, c.width = c.text.length := by
    intro texts c hc
    obtain ⟨text, -, rfl⟩ := List.mem_map.mp hc
    rfl
  refine List.forall_mem_cons.mpr ⟨⟨rfl, hplain _⟩, fun cells hcells => ?_⟩
  obtain ⟨⟨⟨axis, bin⟩, position⟩, -, rfl⟩ := List.mem_map.mp hcells
  exact ⟨rfl, hplain [_, _, _, _]⟩

theorem drawn_cellTable (cell : List (Axis × Nat)) :
    BoxTable.Drawn ["Axis", "Variable", "Bin", "Range"] (cellTexts cell) (cellTable cell).widths
      (cellTable cell).lines :=
  BoxTable.drawn_lines (plain_cellTable cell)

theorem texts_cellRow_of_listed {axis : Axis} {item : ReportedBin} (h : axis.ListedAs item)
    (position : Nat) :
    (cellRow position axis item.bin).map (·.text) = listedRow position axis item := by
  rw [cellRow, intervalText, h.2]
  rfl

/-- The rows of a cell are those of the listed bins, one for each axis in order. -/
theorem getElem?_cellTexts_of_listed {axes : List Axis} {items : List ReportedBin}
    (h : List.Forall₂ Axis.ListedAs axes items) {i : Nat} {axis : Axis} {item : ReportedBin}
    (haxis : axes[i]? = some axis) (hitem : items[i]? = some item) :
    (cellTexts (axes.zip (items.map (·.bin))))[i]? = some (listedRow i axis item) := by
  have hlisted : axis.ListedAs item := by
    obtain ⟨hi, rfl⟩ := List.getElem?_eq_some_iff.mp haxis
    obtain ⟨hi', rfl⟩ := List.getElem?_eq_some_iff.mp hitem
    exact List.Forall₂.get h hi hi'
  have hpair : (axes.zip (items.map (·.bin)))[i]? = some (axis, item.bin) :=
    List.getElem?_zip_eq_some.mpr ⟨haxis, by rw [List.getElem?_map, hitem]; rfl⟩
  rw [cellTexts, cellTable, List.getElem?_map, List.getElem?_map, List.getElem?_zipIdx, hpair,
    Nat.zero_add]
  exact congrArg some (texts_cellRow_of_listed hlisted i)

/-! ## Decoding step by step -/

/-- A category that a grid of so many does not have. -/
def outsideRange (category : UInt64) (total : Nat) : Failure :=
  ⟨[], .refused ("Category " ++ toString category.toNat ++ " is outside the valid range [0, "
    ++ toString total ++ ")")⟩

/-- The lines of a category's cell, as they are printed. -/
def printedCell (category : UInt64) (total : Nat) (lines : List String) : String :=
  "\n ◆ Category " ++ toString category.toNat ++ " of " ++ toString total ++ "\n\n"
    ++ String.join (lines.map fun line => "   " ++ line ++ "\n") ++ "\n"

section Steps

variable {w : World} {path : Path} {category : UInt64} {c : MixingConfig} {g : Grid}
  {used : VariableSet} {f : Failure} {cell : List (Axis × Nat)}

/-- What is done once the grid is there. -/
theorem runDecode_eq (path : Path) (category : UInt64) :
    runDecode path category = (do
      let c ← MixingConfig.load path
      let made ← c.setUp
      match made.1.cell? category with
      | none => Command.ofOutcome (.error (outsideRange category made.1.total.toNat))
      | some cell =>
        Command.printed (printedCell category made.1.total.toNat (cellTable cell).lines)) :=
  rfl

theorem outcome_runDecode_of_unread (h : MixingConfig.Unread w path f) :
    outcome w (runDecode path category) = .error f := by
  rw [runDecode_eq, Command.outcome_bind_of_readsOnly (.loadConfig path),
    MixingConfig.outcome_load_of_unread h]

/-- A configuration that is read is set up in the world that it is read in. -/
theorem outcome_runDecode_of_readFrom (h : c.ReadFrom w path) :
    outcome w (runDecode path category) = (c.toGrid VariableSet.empty).1.bind fun g =>
      match g.cell? category with
      | none => .error (outsideRange category g.total.toNat)
      | some _ => .ok () := by
  rw [runDecode_eq, Command.outcome_bind_of_readsOnly (.loadConfig path),
    MixingConfig.outcome_load_of_readFrom h]
  dsimp only
  rw [Command.outcome_bind_of_readsOnly (.setUp c), MixingConfig.outcome_setUp]
  cases (c.toGrid VariableSet.empty).1 with
  | error f => rfl
  | ok g =>
      dsimp only [Except.map, Except.bind]
      cases g.cell? category <;> rfl

theorem after_runDecode_of_cell (h : c.ReadFrom w path)
    (hgrid : c.toGrid VariableSet.empty = (.ok g, used)) (hcell : g.cell? category = some cell) :
    after w (runDecode path category) = (after w c.setUp).print .output
      (printedCell category g.total.toNat (cellTable cell).lines) := by
  have hsetUp : outcome w c.setUp = .ok (g, used) := by
    rw [MixingConfig.outcome_setUp, hgrid]
    rfl
  rw [runDecode_eq, Command.after_bind, MixingConfig.outcome_load_of_readFrom h,
    MixingConfig.after_load]
  dsimp only
  rw [Command.after_bind, hsetUp]
  dsimp only
  rw [hcell]
  rfl

end Steps

/-! ## What is reported -/

/-- Why no cell is printed for a category: what the first step to fail reports. -/
inductive NoCell (w : World) (path : Path) (category : UInt64) : Failure → Prop
  | unread {f : Failure} (h : MixingConfig.Unread w path f) : NoCell w path category f
  /-- The first configured axis that is none. -/
  | noAxis {c : MixingConfig} {before : List AxisConfig} {bad : AxisConfig} {e : MixingError}
      (hread : c.ReadFrom w path) (h : FailsFirst AxisConfig.axis c.axes before bad e) :
      NoCell w path category (MixingConfig.invalidAxis (before.length + 1) bad e)
  | tooMany {c : MixingConfig} (hread : c.ReadFrom w path) (hvalid : c.Valid)
      (h : UInt64.size ≤ c.cells) : NoCell w path category ⟨[], .mixing .tooManyCategories⟩
  | noAxes {c : MixingConfig} (hread : c.ReadFrom w path) (h : c.axes = []) :
      NoCell w path category (outsideRange category 0)
  | beyond {c : MixingConfig} (hread : c.ReadFrom w path) (hvalid : c.Valid)
      (hfits : c.cells < UInt64.size) (hne : c.axes ≠ []) (h : c.cells ≤ category.toNat) :
      NoCell w path category (outsideRange category c.cells)

/-- The category has a cell on the grid of the configuration in a file. -/
structure HasCell (w : World) (path : Path) (category : UInt64) (c : MixingConfig) : Prop where
  read : c.ReadFrom w path
  valid : c.Valid
  fits : c.cells < UInt64.size
  axes_ne_nil : c.axes ≠ []
  lt_cells : category.toNat < c.cells

theorem MixingConfig.valid_of_axes_eq_nil {c : MixingConfig} (h : c.axes = []) : c.Valid := by
  rw [Valid, h]
  exact List.forall_mem_nil _

section Answers

variable {w : World} {path : Path} {category : UInt64} {c : MixingConfig} {g : Grid}
  {used : VariableSet} {f : Failure}

theorem MixingConfig.exists_toGrid (hvalid : c.Valid) (hfits : c.cells < UInt64.size) :
    ∃ g used, c.toGrid VariableSet.empty = (.ok g, used) :=
  exists_toGrid_iff.mpr ⟨hvalid, hfits⟩

/-- The number of cells of a configuration's grid. -/
theorem MixingConfig.total_of_toGrid (h : c.toGrid VariableSet.empty = (.ok g, used)) :
    g.total.toNat = if c.axes = [] then 0 else c.cells := by
  obtain ⟨b, hblueprint, hbuild⟩ := exists_toBlueprint h
  obtain ⟨hmade, -⟩ := toBlueprint_eq_ok_iff.mp hblueprint
  have hnil : b.axes = [] ↔ c.axes = [] := by
    rw [← List.length_eq_zero_iff, ← hmade.length_eq, List.length_eq_zero_iff]
  rw [Blueprint.total_of_build hbuild, cells, cellCount_of_forall₂ hmade]
  simp only [hnil]

theorem cell?_eq_none_iff : g.cell? category = none ↔ g.total.toNat ≤ category.toNat := by
  rw [Grid.cell?, Option.map_eq_none_iff, Grid.decode?]
  simp [UInt64.lt_iff_toNat_lt]

/-- Where there is a grid, only the category may still be wrong. -/
theorem outcome_runDecode_of_toGrid (hread : c.ReadFrom w path)
    (hgrid : c.toGrid VariableSet.empty = (.ok g, used)) :
    outcome w (runDecode path category) = if g.total.toNat ≤ category.toNat
      then .error (outsideRange category g.total.toNat) else .ok () := by
  rw [outcome_runDecode_of_readFrom hread, hgrid]
  dsimp only [Except.bind]
  cases hcell : g.cell? category with
  | none => rw [if_pos (cell?_eq_none_iff.mp hcell)]
  | some cell =>
      rw [if_neg]
      intro hle
      rw [cell?_eq_none_iff.mpr hle] at hcell
      cases hcell

theorem outcome_runDecode_of_noCell (h : NoCell w path category f) :
    outcome w (runDecode path category) = .error f := by
  cases h with
  | unread h => exact outcome_runDecode_of_unread h
  | @noAxis c before bad e hread h =>
      have hblueprint : c.toBlueprint VariableSet.empty = (.error _, _) :=
        MixingConfig.toBlueprint_eq_error_iff.mpr ⟨before, bad, e, h, rfl, rfl⟩
      have hgrid := MixingConfig.toGrid_of_toBlueprint_error hblueprint
      rw [outcome_runDecode_of_readFrom hread, hgrid]
      rfl
  | @tooMany c hread hvalid h =>
      have hgrid : c.toGrid VariableSet.empty = (.error ⟨[], .mixing .tooManyCategories⟩, _) :=
        MixingConfig.toGrid_eq_tooMany_iff.mpr ⟨hvalid, h, rfl⟩
      rw [outcome_runDecode_of_readFrom hread, hgrid]
      rfl
  | @noAxes c hread h =>
      have hfits : c.cells < UInt64.size := by
        rw [MixingConfig.cells, h]
        decide
      obtain ⟨g, used, hgrid⟩ :=
        MixingConfig.exists_toGrid (MixingConfig.valid_of_axes_eq_nil h) hfits
      rw [outcome_runDecode_of_toGrid hread hgrid, MixingConfig.total_of_toGrid hgrid, if_pos h,
        if_pos (Nat.zero_le _)]
  | @beyond c hread hvalid hfits hne h =>
      obtain ⟨g, used, hgrid⟩ := MixingConfig.exists_toGrid hvalid hfits
      rw [outcome_runDecode_of_toGrid hread hgrid, MixingConfig.total_of_toGrid hgrid, if_neg hne,
        if_pos h]

/-- A category has a cell or there is a reason why not. -/
theorem noCell_or_hasCell (w : World) (path : Path) (category : UInt64) :
    (∃ f, NoCell w path category f) ∨ ∃ c, HasCell w path category c := by
  rcases MixingConfig.unread_or_readFrom w path with ⟨f, h⟩ | ⟨c, hread⟩
  · exact Or.inl ⟨f, .unread h⟩
  · rcases hblueprint : c.toBlueprint VariableSet.empty with ⟨o, heard⟩
    cases o with
    | error f =>
        obtain ⟨before, bad, e, h, -⟩ := MixingConfig.toBlueprint_eq_error_iff.mp hblueprint
        exact Or.inl ⟨_, .noAxis hread h⟩
    | ok b =>
        have hvalid : c.Valid := MixingConfig.exists_toBlueprint_iff.mp ⟨b, heard, hblueprint⟩
        rcases Nat.lt_or_ge c.cells UInt64.size with hfits | hmany
        · by_cases hnil : c.axes = []
          · exact Or.inl ⟨_, .noAxes hread hnil⟩
          · rcases Nat.lt_or_ge category.toNat c.cells with hlt | hle
            · exact Or.inr ⟨c, hread, hvalid, hfits, hnil, hlt⟩
            · exact Or.inl ⟨_, .beyond hread hvalid hfits hnil hle⟩
        · exact Or.inl ⟨_, .tooMany hread hvalid hmany⟩

/-! ## What is printed -/

/-- The rows tell, for each configured axis in order, its position, its variable, the bin on
it and the bin's bounds. The bounds of all rows together hold just the events of the category,
and a report lists the same bins for it. -/
structure PrintsCell (c : MixingConfig) (g : Grid) (category : UInt64)
    (rows : List (List String)) (items : List ReportedBin) : Prop where
  axes_made : List.Forall₂ (fun a axis => a.axis = .ok axis) c.axes g.axes
  listed : List.Forall₂ Axis.ListedAs g.axes items
  length_rows : rows.length = c.axes.length
  row_eq : ∀ (i : Nat) (axis : Axis) (item : ReportedBin), g.axes[i]? = some axis →
    items[i]? = some item → rows[i]? = some [toString i, axis.observable.name,
      toString item.bin ++ " / " ++ toString axis.binCount,
      "[" ++ item.lower.render .prose ++ ", " ++ item.upper.render .prose ++ ")"]
  holds_iff : ∀ values : Observables,
    (∀ item ∈ items, item.Holds values) ↔ g.categorize? values = some category
  reported : ∀ (p : Pooling) (origin : ReportOrigin) (timestamp : String),
    ∀ entry ∈ (OccupancyReport.build g p origin timestamp).categories,
      entry.category = category → entry.bins = items

theorem printsCell_of_toGrid (hgrid : c.toGrid VariableSet.empty = (.ok g, used))
    (hlt : category < g.total) :
    ∃ cell, g.cell? category = some cell ∧
      PrintsCell c g category (cellTexts cell) (OccupancyReport.binsOf g category) := by
  obtain ⟨b, hblueprint, hbuild⟩ := MixingConfig.exists_toBlueprint hgrid
  obtain ⟨hmade, -⟩ := MixingConfig.toBlueprint_eq_ok_iff.mp hblueprint
  have haxes := axes_of_build hbuild
  obtain ⟨bins, hdecode⟩ := Grid.exists_decode?_iff.mpr hlt
  obtain ⟨hlisted, hbins⟩ := OccupancyReport.binsOf_of_decode? hdecode
  obtain ⟨hlistedOfBlueprint, hencode⟩ := OccupancyReport.binsOf_of_lt_total hbuild hlt
  refine ⟨g.axes.zip bins, by rw [Grid.cell?, hdecode]; rfl, ?_⟩
  rw [← hbins]
  refine
    { axes_made := haxes ▸ hmade
      listed := hlisted
      length_rows := ?_
      row_eq := fun i axis item => getElem?_cellTexts_of_listed hlisted
      holds_iff := fun values => (OccupancyReport.categorize?_eq_some_iff_of_listed hbuild
        hlistedOfBlueprint hencode values).symm
      reported := ?_ }
  · rw [cellTexts, cellTable, List.length_map, List.length_map, List.length_zipIdx,
      List.length_zip, List.length_map, ← hlisted.length_eq, Nat.min_self, haxes,
      hmade.length_eq]
  · rintro p origin timestamp entry hentry rfl
    obtain ⟨o, -, rfl⟩ := List.mem_map.mp hentry
    rfl

theorem exists_printsCell (h : HasCell w path category c) :
    outcome w (runDecode path category) = .ok () ∧
    ∃ (g : Grid) (used : VariableSet) (cell : List (Axis × Nat)) (items : List ReportedBin),
      c.toGrid VariableSet.empty = (.ok g, used) ∧
      PrintsCell c g category (cellTexts cell) items ∧
      after w (runDecode path category)
        = w.print .output (printedCell category c.cells (cellTable cell).lines) := by
  obtain ⟨g, used, hgrid⟩ := MixingConfig.exists_toGrid h.valid h.fits
  have htotal : g.total.toNat = c.cells := by
    rw [MixingConfig.total_of_toGrid hgrid, if_neg h.axes_ne_nil]
  have hlt : category.toNat < g.total.toNat := htotal ▸ h.lt_cells
  obtain ⟨cell, hcell, hprints⟩ :=
    printsCell_of_toGrid hgrid (UInt64.lt_iff_toNat_lt.mpr hlt)
  refine ⟨?_, g, used, _, _, hgrid, hprints, ?_⟩
  · rw [outcome_runDecode_of_toGrid h.read hgrid, if_neg (Nat.not_le_of_lt hlt)]
  · rw [after_runDecode_of_cell h.read hgrid hcell, MixingConfig.after_setUp, if_neg h.axes_ne_nil,
      htotal]

/-- Decoding succeeds exactly where the file spells a configuration, its axes are all axes,
their bin counts multiply to less than a word can hold, there is an axis, and the category is
below that product. Else what is reported is the failure of the first of these that does not
hold, and without an axis the range of categories is empty. What is printed is a drawing with
a line for each configured axis in order, which shows the axis and the bin on it; the bounds
in these lines hold exactly the events of the category and are the ones that reports list for
it. -/
theorem runDecode_prints_cell (w : World) (path : Path) (category : UInt64) :
    (outcome w (runDecode path category) = .ok () ↔ ∃ c : MixingConfig, c.ReadFrom w path ∧
      c.Valid ∧ c.cells < UInt64.size ∧ c.axes ≠ [] ∧ category.toNat < c.cells) ∧
    (∀ f, outcome w (runDecode path category) = .error f ↔ NoCell w path category f) ∧
    (∀ c : MixingConfig, c.ReadFrom w path → c.axes = [] →
      outcome w (runDecode path category) = .error ⟨[], .refused ("Category "
        ++ toString category.toNat ++ " is outside the valid range [0, 0)")⟩) ∧
    (outcome w (runDecode path category) = .ok () → ∃ (c : MixingConfig) (g : Grid)
      (used : VariableSet) (rows : List (List String)) (items : List ReportedBin)
      (widths : List Nat) (lines : List String),
      c.ReadFrom w path ∧ c.toGrid VariableSet.empty = (.ok g, used) ∧
      PrintsCell c g category rows items ∧
      BoxTable.Drawn ["Axis", "Variable", "Bin", "Range"] rows widths lines ∧
      after w (runDecode path category) = w.print .output ("\n ◆ Category "
        ++ toString category.toNat ++ " of " ++ toString c.cells ++ "\n\n"
        ++ String.join (lines.map fun line => "   " ++ line ++ "\n") ++ "\n")) := by
  have hfails : ∀ f, outcome w (runDecode path category) = .error f →
      NoCell w path category f := by
    intro f hf
    rcases noCell_or_hasCell w path category with ⟨f', hf'⟩ | ⟨c, hc⟩
    · obtain rfl := Except.error.inj ((outcome_runDecode_of_noCell hf').symm.trans hf)
      exact hf'
    · rw [(exists_printsCell hc).1] at hf
      cases hf
  have hhas : outcome w (runDecode path category) = .ok () → ∃ c, HasCell w path category c := by
    intro hok
    rcases noCell_or_hasCell w path category with ⟨f, hf⟩ | hc
    · rw [outcome_runDecode_of_noCell hf] at hok
      cases hok
    · exact hc
  refine ⟨⟨fun hok => ?_, ?_⟩, fun f => ⟨hfails f, outcome_runDecode_of_noCell⟩,
    fun c hread hnil => ?_, fun hok => ?_⟩
  · obtain ⟨c, hc⟩ := hhas hok
    exact ⟨c, hc.read, hc.valid, hc.fits, hc.axes_ne_nil, hc.lt_cells⟩
  · rintro ⟨c, hread, hvalid, hfits, hne, hlt⟩
    exact (exists_printsCell ⟨hread, hvalid, hfits, hne, hlt⟩).1
  · have hrange : " is outside the valid range [0, " ++ (toString 0 ++ ")")
        = " is outside the valid range [0, 0)" := by decide
    rw [outcome_runDecode_of_noCell (.noAxes hread hnil), outsideRange]
    simp only [String.append_assoc, hrange]
  · obtain ⟨c, hc⟩ := hhas hok
    obtain ⟨-, g, used, cell, items, hgrid, hprints, hafter⟩ := exists_printsCell hc
    exact ⟨c, g, used, _, items, _, _, hc.read, hgrid, hprints, drawn_cellTable cell, hafter⟩

/-- A configuration of two bins. -/
def twoBinsText : String :=
  "\x7b\"axes\":[\x7b\"variable\":\"vtx_z\",\"edges\":[0,1,2]\x7d]\x7d"

/-- A working folder with that configuration. -/
def twoBinsFolder : World where
  files := { files := [(["mixing.json"], .text twoBinsText)] }

theorem readFrom_twoBinsFolder :
    MixingConfig.ReadFrom twoBinsFolder ⟨"mixing.json"⟩ ⟨[MixingConfig.twoBins], none⟩ := by
  refine ⟨⟨twoBinsText, ?_, by decide +kernel⟩, nofun⟩
  rw [FileStore.read, FileStore.resolve_of_isName _ (by decide) (by decide) (by decide)]
  decide +kernel

/-- What is printed for the second of the two bins. -/
def secondBinText : String :=
  "\n ◆ Category 1 of 2\n\n"
    ++ "   ┌──────┬──────────┬───────┬────────┐\n"
    ++ "   │ Axis ┆ Variable ┆ Bin   ┆ Range  │\n"
    ++ "   ╞══════╪══════════╪═══════╪════════╡\n"
    ++ "   │ 0    ┆ vtx_z    ┆ 1 / 2 ┆ [1, 2) │\n"
    ++ "   └──────┴──────────┴───────┴────────┘\n\n"

theorem printedCell_twoBins :
    ((MixingConfig.toGrid ⟨[MixingConfig.twoBins], none⟩ VariableSet.empty).1.toOption.bind
      fun g => (g.cell? 1).map fun cell =>
        printedCell 1 g.total.toNat (cellTable cell).lines) = some secondBinText := by
  decide +kernel

/-- Of two bins the second is printed as one line, and there is no third. -/
theorem runDecode_prints_cell_twoBins :
    outcome twoBinsFolder (runDecode ⟨"mixing.json"⟩ 2) = .error (outsideRange 2 2) ∧
      outcome twoBinsFolder (runDecode ⟨"mixing.json"⟩ 1) = .ok () ∧
      after twoBinsFolder (runDecode ⟨"mixing.json"⟩ 1) = twoBinsFolder.print .output
        secondBinText := by
  have htwo : ∃ axis, MixingConfig.twoBins.axis = .ok axis :=
    ⟨⟨.vtxZ, MixingConfig.twoBins.edges.toArray, by decide, by decide,
      fun i hi => Axis.ascending_of_pairwise (by decide) i _ hi⟩, by decide +kernel⟩
  have hvalid : MixingConfig.Valid ⟨[MixingConfig.twoBins], none⟩ :=
    List.forall_mem_singleton.mpr htwo
  have hcells : MixingConfig.cells ⟨[MixingConfig.twoBins], none⟩ = 2 := rfl
  have hfits : MixingConfig.cells ⟨[MixingConfig.twoBins], none⟩ < UInt64.size := by
    rw [hcells]
    decide
  obtain ⟨-, hfails, -⟩ := runDecode_prints_cell twoBinsFolder ⟨"mixing.json"⟩ 2
  obtain ⟨hok, -⟩ := runDecode_prints_cell twoBinsFolder ⟨"mixing.json"⟩ 1
  have hbeyond : NoCell twoBinsFolder ⟨"mixing.json"⟩ 2
      (outsideRange 2 (MixingConfig.cells ⟨[MixingConfig.twoBins], none⟩)) :=
    .beyond readFrom_twoBinsFolder hvalid hfits (by simp) (by rw [hcells]; decide)
  rw [hcells] at hbeyond
  refine ⟨(hfails _).mpr hbeyond,
    hok.mpr ⟨_, readFrom_twoBinsFolder, hvalid, hfits, by simp, by rw [hcells]; decide⟩, ?_⟩
  obtain ⟨g, used, hgrid⟩ := MixingConfig.exists_toGrid hvalid hfits
  have htext := printedCell_twoBins
  rw [hgrid] at htext
  obtain ⟨cell, hcell, htext⟩ := Option.map_eq_some_iff.mp htext
  rw [after_runDecode_of_cell readFrom_twoBinsFolder hgrid hcell, MixingConfig.after_setUp,
    if_neg (by simp), htext]

end Answers

end EventMixing
