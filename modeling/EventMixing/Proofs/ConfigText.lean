import EventMixing.Config.Text
import EventMixing.Proofs.Documents
import EventMixing.Proofs.Names
import Mathlib.Data.List.Forall2

/-!
# The text of a configuration is read back

A configuration may be arranged in several ways, the members of each object coming in any
order, and its tokens may be laid out with white space around them. However that is done,
the text is read as the configuration if all edges are finite, and not at all if one is not
(`MixingConfig.reads_arranged`), since such an edge is written as `null`. Of doubles nothing
is assumed but that the text of each finite edge reads back as this edge (`ReadsBack`).
-/

namespace EventMixing

open Json (Document Spells)

/-! ## Edges -/

/-- The text of a double is read as this double. -/
def ReadsBack (e : Double) : Prop :=
  Json.Reader.double.readText (Json.Token.real e).write.toList = .ok e

instance (e : Double) : Decidable (ReadsBack e) :=
  inferInstanceAs (Decidable (Json.Reader.double.readText _ = _))

theorem mapM_filtered {α : Type} (p : α → Bool) (as : List α) :
    (as.map fun a => if p a then some a else none).mapM id =
      if as.all p then some as else none := by
  induction as with
  | nil => rfl
  | cons a as ih =>
      rw [List.map_cons, List.mapM_cons, ih, List.all_cons]
      cases p a <;> cases as.all p <;> rfl

theorem real_rereads {e : Double} (h : e.isFinite = true → ReadsBack e) :
    (Json.Token.real e).Rereads := by
  cases hfinite : e.isFinite with
  | true => exact (Json.Token.real_rereads (h hfinite)).1
  | false => exact (Json.Token.real_rereads_of_not_finite hfinite).1

namespace AxisConfig

/-- All edges are finite. -/
def isFinite (axis : AxisConfig) : Bool := axis.edges.all (·.isFinite)

/-- The document of an axis, with its members in any order. -/
def Arranged (axis : AxisConfig) (d : Document) : Prop :=
  ∃ members, d = .object members ∧ members.Perm [
    ("variable", .text axis.observable.name),
    ("edges", .list (axis.edges.map .real))]

theorem reads_edges {edges : List Double} (hback : ∀ e ∈ edges, e.isFinite = true → ReadsBack e) :
    Json.Reader.double.list.Reads (.list (edges.map .real))
      (if edges.all (·.isFinite) then some edges else none) := by
  rw [← mapM_filtered]
  refine .list ?_
  rw [List.forall₂_map_left_iff, List.forall₂_map_right_iff, List.forall₂_same]
  exact fun e he => .double (hback e he)

/-- An axis in any arrangement is read as itself if its edges are finite, else not at all. -/
theorem reads_arranged {axis : AxisConfig}
    (hback : ∀ e ∈ axis.edges, e.isFinite = true → ReadsBack e) {d : Document}
    (h : axis.Arranged d) :
    schema.reader.Reads d (if axis.isFinite then some axis else none) := by
  obtain ⟨members, rfl, hperm⟩ := h
  have hvariable := (Json.Reader.Reads.text
    (fun name => (Variable.ofName name).mapError MixingError.message) axis.observable.name).map
      fun v (draft : Draft) => { draft with observable := some v }
  have hname : ((Variable.ofName axis.observable.name).mapError MixingError.message).toOption =
      some axis.observable := by
    rw [Variable.ofName, ofName?_name]
    rfl
  rw [hname] at hvariable
  have hedges := (reads_edges hback).map
    fun es (draft : Draft) => { draft with edges := some es }
  have hfills : schema.Fills schema.start members _ :=
    Json.Schema.fills_pair rfl rfl hvariable hedges rfl rfl
      (fun set hset => by
        obtain ⟨es, -, rfl⟩ := Option.map_eq_some_iff.mp hset
        rfl)
      (fun set hset => by
        obtain rfl := Option.some.inj hset
        rfl)
      (fun set₁ hset₁ set₂ hset₂ => by
        obtain rfl := Option.some.inj hset₁
        obtain ⟨es, -, rfl⟩ := Option.map_eq_some_iff.mp hset₂
        rfl) hperm
  have hreads := Json.Schema.reads_object hfills
  unfold isFinite
  cases hfinite : axis.edges.all (·.isFinite) with
  | true =>
      rw [hfinite] at hreads
      exact hreads
  | false =>
      rw [hfinite] at hreads
      exact hreads

theorem legible_arranged {axis : AxisConfig}
    (hback : ∀ e ∈ axis.edges, e.isFinite = true → ReadsBack e) {d : Document}
    (h : axis.Arranged d) : d.Legible := by
  obtain ⟨members, rfl, hperm⟩ := h
  refine .object fun m hm => ?_
  have hm := hperm.mem_iff.mp hm
  simp only [List.mem_cons, List.not_mem_nil, or_false] at hm
  rcases hm with rfl | rfl
  · exact .single (Json.Token.text_rereads _).1
  · refine .list fun d hd => ?_
    obtain ⟨e, he, rfl⟩ := List.mem_map.mp hd
    exact .single (real_rereads (hback e he))

variable {axes : List AxisConfig}

theorem reads_list (hback : ∀ axis ∈ axes, ∀ e ∈ axis.edges, e.isFinite = true → ReadsBack e)
    {ds : List Document} (h : List.Forall₂ Arranged axes ds) :
    schema.reader.list.Reads (.list ds) (if axes.all isFinite then some axes else none) := by
  rw [← mapM_filtered]
  refine .list ?_
  induction h with
  | nil => exact .nil
  | cons hd _ ih =>
      obtain ⟨haxis, hrest⟩ := List.forall_mem_cons.mp hback
      exact .cons (reads_arranged haxis hd) (ih hrest)

theorem legible_list (hback : ∀ axis ∈ axes, ∀ e ∈ axis.edges, e.isFinite = true → ReadsBack e)
    {ds : List Document} (h : List.Forall₂ Arranged axes ds) :
    Json.Document.Legible (.list ds) := by
  refine .list fun d hd => ?_
  induction h with
  | nil => cases hd
  | cons hfirst _ ih =>
      obtain ⟨haxis, hrest⟩ := List.forall_mem_cons.mp hback
      rcases List.mem_cons.mp hd with rfl | hd
      · exact legible_arranged haxis hfirst
      · exact ih hrest hd

end AxisConfig

namespace MixingConfig

/-- All edges of all axes are finite. -/
def isFinite (c : MixingConfig) : Bool := c.axes.all (·.isFinite)

/-- The document of a configuration, with the members of each object in any order. -/
def Arranged (c : MixingConfig) (d : Document) : Prop :=
  ∃ axes members, List.Forall₂ AxisConfig.Arranged c.axes axes ∧ d = .object members ∧
    members.Perm (("axes", .list axes)
      :: c.mixingDepth.toList.map fun depth => ("mixing_depth", .natural depth.toNat))

theorem arranged_document (c : MixingConfig) : c.Arranged c.document := by
  refine ⟨c.axes.map axisDocument, _, ?_, rfl, .refl _⟩
  rw [List.forall₂_map_right_iff, List.forall₂_same]
  exact fun axis _ => ⟨_, rfl, .refl _⟩

section Reading

variable {c : MixingConfig}
  (hback : ∀ axis ∈ c.axes, ∀ e ∈ axis.edges, e.isFinite = true → ReadsBack e)

include hback

/-- A configuration in any arrangement is read as itself if its edges are finite, else not
at all. -/
theorem reads_arranged {d : Document} (h : c.Arranged d) :
    schema.reader.Reads d (if c.isFinite then some c else none) := by
  obtain ⟨axes, members, haxes, rfl, hperm⟩ := h
  obtain ⟨as, depth⟩ := c
  have hread := (AxisConfig.reads_list hback haxes).map
    fun as (draft : Draft) => { draft with axes := some as }
  have hfills : schema.Fills schema.start members
      (if as.all (·.isFinite) then some ⟨some as, depth.map some⟩ else none) := by
    cases depth with
    | none =>
        obtain rfl := List.perm_singleton.mp hperm
        cases hfinite : as.all (·.isFinite) with
        | true =>
            rw [hfinite] at hread
            exact .next rfl rfl hread (.done _)
        | false =>
            rw [hfinite] at hread
            exact .stuck rfl rfl hread
    | some depth =>
        have hdepth := (Json.Reader.Reads.optionalNatural depth).map
          fun depth (draft : Draft) => { draft with mixingDepth := some depth }
        have hpair : schema.Fills schema.start members _ :=
          Json.Schema.fills_pair rfl rfl hread hdepth rfl rfl
            (fun set hset => by
              obtain rfl := Option.some.inj hset
              rfl)
            (fun set hset => by
              obtain ⟨as, -, rfl⟩ := Option.map_eq_some_iff.mp hset
              rfl)
            (fun set₁ hset₁ set₂ hset₂ => by
              obtain ⟨as, -, rfl⟩ := Option.map_eq_some_iff.mp hset₁
              obtain rfl := Option.some.inj hset₂
              rfl) hperm
        cases hfinite : as.all (·.isFinite) with
        | true =>
            rw [hfinite] at hpair
            exact hpair
        | false =>
            rw [hfinite] at hpair
            exact hpair
  have hreads := Json.Schema.reads_object hfills
  unfold isFinite
  cases hfinite : as.all (·.isFinite) with
  | true =>
      rw [hfinite] at hreads
      cases depth <;> exact hreads
  | false =>
      rw [hfinite] at hreads
      exact hreads

theorem legible_arranged {d : Document} (h : c.Arranged d) : d.Legible := by
  obtain ⟨axes, members, haxes, rfl, hperm⟩ := h
  refine .object fun m hm => ?_
  rcases List.mem_cons.mp (hperm.mem_iff.mp hm) with rfl | hm
  · exact AxisConfig.legible_list hback haxes
  · obtain ⟨depth, -, rfl⟩ := List.mem_map.mp hm
    exact .single (Json.Token.natural_rereads depth.toNat_lt_size).1

end Reading

/-- A text in any layout of a configuration, in any arrangement, is read as the configuration
if it is one that may be written. -/
theorem ofText_of_spells {c : MixingConfig}
    (hback : ∀ axis ∈ c.axes, ∀ e ∈ axis.edges, e.isFinite = true → ReadsBack e)
    {d : Document} (h : c.Arranged d) {text : String} (hspells : Spells d text.toList) :
    (ofText text).toOption =
      if c.isFinite ∧ c.mixingDepth ≠ some 0 then some c else none := by
  have hread := (reads_arranged hback h).readText (legible_arranged hback h) hspells
  unfold ofText
  cases hr : schema.reader.readText text.toList with
  | error fault =>
      rw [hr] at hread
      have hfinite : ¬ c.isFinite = true := by
        intro hfinite
        rw [if_pos hfinite] at hread
        cases hread
      rw [if_neg fun hboth => hfinite hboth.1]
      rfl
  | ok c' =>
      rw [hr] at hread
      have hfinite : c.isFinite = true := by
        by_contra hfinite
        rw [if_neg hfinite] at hread
        cases hread
      rw [if_pos hfinite] at hread
      obtain rfl := Option.some.inj hread
      dsimp only
      by_cases hdepth : c'.mixingDepth = some 0
      · rw [if_pos hdepth, if_neg fun hboth => hboth.2 hdepth]
        rfl
      · rw [if_neg hdepth, if_pos ⟨hfinite, hdepth⟩]
        rfl

/-- The text of a configuration, in any layout and with the members of its objects in any
order, is read as the same configuration, provided that its edges are finite and its depth
is not zero; else it is refused. -/
theorem ofText_inverse_toText (c : MixingConfig)
    (readsBack : ∀ axis ∈ c.axes, ∀ e ∈ axis.edges, e.isFinite = true → ReadsBack e) :
    ((∀ axis ∈ c.axes, ∀ e ∈ axis.edges, e.isFinite = true) → c.mixingDepth ≠ some 0 →
      ofText c.toText = .ok c ∧
      ∀ d text, c.Arranged d → Spells d text.toList → ofText text = .ok c) ∧
    ((∃ axis ∈ c.axes, ∃ e ∈ axis.edges, e.isFinite = false) ∨ c.mixingDepth = some 0 →
      (∃ f, ofText c.toText = .error f) ∧
      ∀ d text, c.Arranged d → Spells d text.toList → ∃ f, ofText text = .error f) := by
  have hfinite : c.isFinite = true ↔ ∀ axis ∈ c.axes, ∀ e ∈ axis.edges, e.isFinite = true := by
    simp [isFinite, AxisConfig.isFinite]
  have hspells : Spells c.document c.toText.toList := Json.spells_compact c.document
  constructor
  · intro hall hdepth
    have hok : ∀ d text, c.Arranged d → Spells d text.toList → ofText text = .ok c := by
      intro d text harranged hspells
      have hread := ofText_of_spells readsBack harranged hspells
      rw [if_pos ⟨hfinite.mpr hall, hdepth⟩] at hread
      exact Json.toOption_eq_some_iff.mp hread
    exact ⟨hok _ _ c.arranged_document hspells, hok⟩
  · intro hbad
    have hnot : ¬ (c.isFinite = true ∧ c.mixingDepth ≠ some 0) := by
      rintro ⟨hall, hdepth⟩
      rcases hbad with ⟨axis, haxis, e, he, hnot⟩ | hzero
      · rw [hfinite.mp hall axis haxis e he] at hnot
        cases hnot
      · exact hdepth hzero
    have herror : ∀ d text, c.Arranged d → Spells d text.toList → ∃ f, ofText text = .error f := by
      intro d text harranged hspells
      have hread := ofText_of_spells readsBack harranged hspells
      rw [if_neg hnot] at hread
      exact Json.toOption_eq_none_iff.mp hread
    exact ⟨herror _ _ c.arranged_document hspells, herror⟩

/-- Edges that make no axis and the greatest depth there is; and an edge that is no number. -/
theorem ofText_inverse_toText_extremes :
    ofText (toText ⟨[⟨.vtxZ, [⟨0x3FB999999999999A⟩, ⟨0xC024000000000000⟩]⟩, ⟨.psi2, []⟩,
        ⟨.vtxZ, [⟨0x8000000000000000⟩]⟩], some 0xFFFFFFFFFFFFFFFF⟩) =
      .ok ⟨[⟨.vtxZ, [⟨0x3FB999999999999A⟩, ⟨0xC024000000000000⟩]⟩, ⟨.psi2, []⟩,
        ⟨.vtxZ, [⟨0x8000000000000000⟩]⟩], some 0xFFFFFFFFFFFFFFFF⟩ ∧
    ∃ f, ofText (toText ⟨[⟨.psi2, [⟨0⟩, ⟨0x7FF8000000000000⟩]⟩], none⟩) = .error f :=
  ⟨((ofText_inverse_toText _ (by decide +kernel)).1 (by decide +kernel) (by decide)).1,
    ((ofText_inverse_toText _ (by decide +kernel)).2 (.inl (by decide +kernel))).1⟩

/-- Blanks and line breaks between the tokens, and the depth in front of the axes. -/
example :
    ofText "\x7b \"mixing_depth\" : 3,\n\"axes\":[ \x7b\"edges\":[0.5 ,2.0],\"variable\":\"psi2\"\x7d ]\x7d\n"
      = .ok ⟨[⟨.psi2, [⟨0x3FE0000000000000⟩, ⟨0x4000000000000000⟩]⟩], some 3⟩ := by
  decide +kernel

end MixingConfig

end EventMixing
