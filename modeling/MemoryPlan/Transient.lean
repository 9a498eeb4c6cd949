import MemoryPlan.Alignment
import MemoryPlan.Event
import MemoryPlan.Layout
import MemoryPlan.Progress
/-!
# Transient buffers

A transient buffer is alive from the position that produces it to the last position that reads it.
`TransientSet.layout` gives buffers that are alive together disjoint places in one region, while buffers
with disjoint lifespans may share bytes: buffers are visited by the start of their lifespan, and each
goes to the lowest aligned offset that is free then (first fit).
-/

namespace MemoryPlan

/-- A buffer that lives during a closed interval of positions. -/
structure Transient where
  /-- The buffer. -/
  id : BufferId
  /-- The position that produces it. -/
  start : Nat
  /-- The last position that reads it. -/
  finish : Nat
  /-- Its bytes. -/
  size : Nat
  deriving DecidableEq, Repr

namespace Transient

/-- The order of placement: by start, then by buffer. -/
def before (a b : Transient) : Bool :=
  a.start < b.start || (a.start == b.start && a.id.index ≤ b.id.index)

/-- Whether the buffer is alive at a position. -/
def aliveAt (t : Transient) (position : Nat) : Bool :=
  t.start ≤ position && position ≤ t.finish

end Transient

/-- A transient buffer at its place. -/
structure Placement where
  /-- The buffer. -/
  buffer : Transient
  /-- The offset in the region. -/
  offset : Nat
  deriving DecidableEq, Repr

namespace Placement

/-- The first offset behind the buffer. -/
def stop (p : Placement) : Nat := p.offset + p.buffer.size

/-- Puts a placement behind those of lower or equal offset. -/
def insertByOffset (new : Placement) : List Placement → List Placement
  | [] => [new]
  | p :: rest => if p.offset ≤ new.offset then p :: insertByOffset new rest else new :: p :: rest

/-- The lowest aligned offset, from `candidate` on, at which `size` bytes fit between placements that are
sorted by offset. -/
def firstFit (alignment : Alignment) (size : Nat) : Nat → List Placement → Nat
  | candidate, [] => candidate
  | candidate, p :: rest =>
    if candidate + size ≤ p.offset then candidate
    else firstFit alignment size (max candidate (alignment.up p.stop)) rest

/-- Places buffers one after the other; placements whose lifespan is over give their bytes back first. -/
def place (alignment : Alignment) : List Placement → List Transient → List Placement
  | _, [] => []
  | live, t :: rest =>
    let alive := live.filter fun p => t.start ≤ p.buffer.finish
    let placed : Placement := ⟨t, firstFit alignment t.size 0 alive⟩
    placed :: place alignment (insertByOffset placed alive) rest

@[simp] theorem mem_insertByOffset {p new : Placement} {sorted : List Placement} :
    p ∈ insertByOffset new sorted ↔ p = new ∨ p ∈ sorted := by
  induction sorted with
  | nil => simp [insertByOffset]
  | cons q rest ih => grind [insertByOffset]

/-- Every buffer gets one place, in order. -/
@[simp] theorem map_buffer_place (alignment : Alignment) (live : List Placement)
    (buffers : List Transient) : (place alignment live buffers).map buffer = buffers := by
  induction buffers generalizing live with
  | nil => rfl
  | cons t rest ih => simp [place, ih]

end Placement

/-- The transient buffers of a plan, to be placed in one region. -/
structure TransientSet where
  /-- The alignment of offsets. -/
  alignment : Alignment := .byte
  /-- The buffers, in the order in which they were added. -/
  buffers : List Transient := []
  deriving DecidableEq, Repr

namespace TransientSet

instance : Inhabited TransientSet := ⟨{}⟩

/-- The sum of the sizes, each rounded up to the alignment. -/
def reserved (set : TransientSet) : Nat :=
  (set.buffers.map fun t => set.alignment.up t.size).foldr (· + ·) 0

/-- The sum of the rounded sizes after one more buffer, unless that sum plus the alignment leaves the
word range. -/
def grown? (set : TransientSet) (size : Nat) : Option Nat := do
  let rounded ← set.alignment.up? size
  let total ← Word.add? set.reserved rounded
  let _ ← Word.add? total set.alignment.bytes
  return total

/-- Adds a buffer; refuses an inverted lifespan, a second buffer of one id and an overflow, in this
order. -/
def add (set : TransientSet) (t : Transient) : Except PlanError TransientSet :=
  if t.finish < t.start then
    .error (.invalidAllocation (.invertedLifespan t.id t.start t.finish))
  else if set.buffers.any fun other => other.id = t.id then
    .error (.invalidAllocation (.duplicateTransient t.id))
  else match set.grown? t.size with
    | none => .error (.invalidAllocation (.transientOverflow t.id t.size set.reserved))
    | some _ => .ok { set with buffers := set.buffers ++ [t] }

/-- Adds buffers until one is refused. -/
def addAll (set : TransientSet) (buffers : List Transient) : Progress TransientSet PlanError :=
  Progress.walk add set buffers

/-- The report of an added buffer. -/
def addedEvent (t : Transient) : Event where
  level := .trace
  part := .layout
  message := s!"MemoryModelBuilder: {t.id.text} lifespan=[{t.start}, {t.finish}] size={t.size}"

/-- The reports of all buffers of the set. -/
def events (set : TransientSet) : List Event := set.buffers.map addedEvent

/-- The buffers in the order of placement. -/
def ordered (set : TransientSet) : List Transient :=
  set.buffers.mergeSort Transient.before

/-- The buffers at their places. -/
def placements (set : TransientSet) : List Placement :=
  Placement.place set.alignment [] set.ordered

/-- The offsets of the buffers, and the bytes that all of them need together. -/
def layout (set : TransientSet) : Layout where
  size := (set.placements.map Placement.stop).foldl max 0
  entries := set.placements.map fun p => (p.buffer.id, p.offset)

/-- The sum of the sizes: what is needed without sharing bytes. -/
def naiveSize (set : TransientSet) : Nat :=
  (set.buffers.map Transient.size).foldr (· + ·) 0

end TransientSet

/-- How much sharing bytes saves. -/
structure ReuseReport where
  /-- The number of buffers. -/
  count : Nat
  /-- The bytes needed without sharing. -/
  naive : Nat
  /-- The bytes of the region. -/
  size : Nat
  deriving DecidableEq, Repr

namespace ReuseReport

/-- The saved part of the naive size; zero if nothing is saved. -/
def ratio (report : ReuseReport) : Float :=
  if report.size < report.naive then
    (report.naive - report.size).toUInt64.toFloat / report.naive.toUInt64.toFloat
  else 0.0

/-- The saved part in whole percent, rounded down. -/
def percent (report : ReuseReport) : Nat := (report.ratio * 100.0).toUInt32.toNat

/-- The report as one line; sizes are in whole units of 1024 bytes. -/
def text (report : ReuseReport) : String :=
  s!"MemoryModelStats: {report.count} buffers, naive={report.naive / 1024}KB, " ++
    s!"model={report.size / 1024}KB ({report.percent}% saved)"

end ReuseReport

namespace TransientSet

/-- How much sharing bytes saves in the layout of the set. -/
def reuse (set : TransientSet) : ReuseReport where
  count := set.buffers.length
  naive := set.naiveSize
  size := set.layout.size

end TransientSet
end MemoryPlan
