import EventMixing.MixingError
import EventMixing.Observables
import EventMixing.PartitionPoint

/-!
# One binned axis

An axis is a variable with at least two finite, strictly ascending edges; `k` edges
bound `k - 1` bins, each closed below and open above. `Axis.ofEdges` names the
first thing that is wrong with a list of edges: their number, then an edge that is
not finite wherever it stands, then one that does not exceed its neighbour.
-/

namespace EventMixing

/-- A variable and the edges of its bins. -/
structure Axis where
  observable : Variable
  edges : Array Double
  two_le_size : 2 ≤ edges.size
  finite : ∀ e ∈ edges, e.isFinite = true
  ascending : ∀ i, (h : i + 1 < edges.size) → edges[i] < edges[i + 1]
deriving DecidableEq

theorem Double.lt_of_not_le {a b : Double} (ha : a.isFinite = true) (hb : b.isFinite = true)
    (h : ¬ b ≤ a) : a < b := by
  simp only [isFinite, decide_eq_true_eq] at ha hb
  have comparable : Comparable a b := by
    simp only [Comparable, isNaN, decide_eq_false_iff_not]
    omega
  refine ⟨comparable, ?_⟩
  have : ¬ b.key ≤ a.key := fun key => h ⟨⟨comparable.2, comparable.1⟩, key⟩
  omega

namespace Axis

/-- The first position after `i` whose edge does not exceed the one before it. -/
def firstDescent? (edges : Array Double) (i : Nat) : Option Nat :=
  if h : i + 1 < edges.size then
    if edges[i + 1] ≤ edges[i] then some (i + 1) else firstDescent? edges (i + 1)
  else none
termination_by edges.size - i

theorem not_le_of_firstDescent?_eq_none {edges : Array Double} {i : Nat}
    (none : firstDescent? edges i = none) (j : Nat) (hij : i ≤ j) (h : j + 1 < edges.size) :
    ¬ edges[j + 1] ≤ edges[j] := by
  fun_induction firstDescent? edges i with
  | case1 => simp at none
  | case2 i hi here ih =>
    rcases Nat.eq_or_lt_of_le hij with rfl | later
    · exact here
    · exact ih none later
  | case3 i hi => omega

/-- The axis with these edges, or what is wrong with them. -/
def ofEdges (observable : Variable) (edges : Array Double) : Except MixingError Axis :=
  if two_le_size : edges.size < 2 then .error (.tooFewEdges observable edges.size)
  else
    match finite : edges.findIdx? (fun e => !e.isFinite) with
    | some index => .error (.nonFiniteEdge observable index)
    | none =>
      match ascending : firstDescent? edges 0 with
      | some index => .error (.unsortedEdges observable index)
      | none =>
        have finite : ∀ e ∈ edges, e.isFinite = true := by
          simpa [Array.findIdx?_eq_none_iff] using finite
        .ok {
          observable, edges, finite
          two_le_size := by omega
          ascending := fun i h => Double.lt_of_not_le
            (finite _ (Array.getElem_mem _)) (finite _ (Array.getElem_mem _))
            (not_le_of_firstDescent?_eq_none ascending i (Nat.zero_le i) h) }

def binCount (axis : Axis) : Nat := axis.edges.size - 1

theorem binCount_pos (axis : Axis) : 0 < axis.binCount := by
  have := axis.two_le_size
  unfold binCount
  omega

/-- The bin that holds `value`: none below the first edge, from the last edge on, or
for a NaN. -/
def findBin? (axis : Axis) (value : Double) : Option Nat :=
  let reached := partitionPoint (fun edge => decide (edge ≤ value)) axis.edges
  if reached = 0 ∨ reached = axis.edges.size then none else some (reached - 1)

/-- The lower and the upper edge of a bin. -/
def binBounds? (axis : Axis) (bin : Nat) : Option (Double × Double) :=
  if h : bin + 1 < axis.edges.size then some (axis.edges[bin], axis.edges[bin + 1]) else none

/-- The same variable and numerically the same edges. -/
def same (a b : Axis) : Bool :=
  a.observable == b.observable && a.edges.size == b.edges.size
    && (a.edges.toList.zip b.edges.toList).all fun (x, y) => x.same y

end Axis

end EventMixing
