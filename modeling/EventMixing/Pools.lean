import Std.Data.TreeMap.Lemmas
import EventMixing.MixingError

/-!
# Pools of recent events

For each category the most recent events are kept, `depth` of them at most. A new
event is paired with all that its category holds and takes its place among them,
driving out the oldest once the pool is full.
-/

namespace EventMixing

/-- The events held for each category, oldest first. -/
structure Pools (α : Type) where
  depth : Nat
  depth_pos : 0 < depth
  held : Std.TreeMap UInt64 (List α)

namespace Pools

variable {α : Type}

/-- Pools that hold nothing yet. -/
def ofDepth (depth : Nat) : Except MixingError (Pools α) :=
  if h : 0 < depth then .ok ⟨depth, h, ∅⟩ else .error .zeroPoolDepth

def events (p : Pools α) (category : UInt64) : List α := p.held.getD category []

/-- A full pool loses its oldest event before it takes a new one. -/
def push (depth : Nat) (pool : List α) (event : α) : List α :=
  (if pool.length = depth then pool.drop 1 else pool) ++ [event]

/-- The partners of a new event, and the pools that hold it. -/
def insert (p : Pools α) (category : UInt64) (event : α) : List α × Pools α :=
  let pool := p.events category
  (pool, { p with held := p.held.insert category (push p.depth pool event) })

def size (p : Pools α) (category : UInt64) : Nat := (p.events category).length

/-- The categories that hold an event, ascending. -/
def categories (p : Pools α) : List UInt64 := p.held.keys

def totalEvents (p : Pools α) : Nat :=
  p.held.values.foldl (fun total events => total + events.length) 0

def isEmpty (p : Pools α) : Bool := p.held.isEmpty

def clear (p : Pools α) : Pools α := { p with held := ∅ }

/-! ## What the operations do to the events held -/

theorem events_of_ofDepth {depth : Nat} {p : Pools α} (h : ofDepth depth = .ok p)
    (category : UInt64) : p.events category = [] := by
  unfold ofDepth at h
  split at h
  · obtain rfl := Except.ok.inj h
    simp [events]
  · cases h

@[simp]
theorem insert_fst (p : Pools α) (category : UInt64) (event : α) :
    (p.insert category event).1 = p.events category := rfl

/-- No other category sees an insertion. -/
theorem events_insert (p : Pools α) (category other : UInt64) (event : α) :
    (p.insert category event).2.events other
      = if category = other then push p.depth (p.events category) event
        else p.events other := by
  simp [insert, events, Std.TreeMap.getD_insert]

@[simp]
theorem events_clear (p : Pools α) (category : UInt64) : p.clear.events category = [] := by
  simp [clear, events]

end Pools

end EventMixing
