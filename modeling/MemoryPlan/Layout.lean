import MemoryPlan.Handle
/-!
# Layouts

A layout says at which offset of a region each buffer lies and how many bytes the region needs.
-/

namespace MemoryPlan

/-- The offsets of buffers in one region. -/
structure Layout where
  /-- The bytes that the region needs. -/
  size : Nat := 0
  /-- Every buffer with its offset; each buffer occurs once. -/
  entries : List (BufferId × Nat) := []
  deriving DecidableEq, Repr, Inhabited

namespace Layout

/-- The layout without buffers. -/
def empty : Layout := {}

/-- The offset of a buffer, if the layout holds it. -/
def offset? (layout : Layout) (buffer : BufferId) : Option Nat :=
  layout.entries.lookup buffer

/-- Whether the layout holds a buffer. -/
def contains (layout : Layout) (buffer : BufferId) : Bool :=
  (layout.offset? buffer).isSome

/-- The number of buffers. -/
def count (layout : Layout) : Nat := layout.entries.length

/-- Whether there are no buffers. -/
def isEmpty (layout : Layout) : Bool := layout.entries.isEmpty

/-- The buffers with their offsets, by ascending buffer. -/
def sorted (layout : Layout) : List (BufferId × Nat) :=
  layout.entries.mergeSort fun a b => a.1.index ≤ b.1.index

/-- Two layouts place the same buffers alike; the order in which they were placed does not matter. -/
def agrees (a b : Layout) : Bool :=
  a.size == b.size && a.sorted == b.sorted

end Layout
end MemoryPlan
