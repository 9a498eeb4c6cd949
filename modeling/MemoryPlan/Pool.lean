import MemoryPlan.Constant
import MemoryPlan.Lending
/-!
# Pools

A pool owns the block of constants, the layout of transient buffers and a fixed number of regions, all of
the size that the layout needs. A leased region resolves buffers to addresses: constants lie in the shared
block, transients in the region itself.
-/

namespace MemoryPlan

/-- The memory of concurrent requests. -/
structure RegionPool where
  /-- The block of constants, shared by all requests. -/
  constants : ConstantBlock
  /-- The offsets of transient buffers in a region. -/
  layout : Layout
  /-- The regions; a slot is a position in this list. -/
  regions : List DeviceBuffer
  /-- Which regions are free, and who waits. -/
  lending : Lending
  deriving DecidableEq, Repr

namespace RegionPool

/-- The number of regions. -/
def size (pool : RegionPool) : Nat := pool.regions.length

/-- The number of free regions. -/
def available (pool : RegionPool) : Nat := pool.lending.available

/-- The number of waiting callers. -/
def waiting (pool : RegionPool) : Nat := pool.lending.waiting.length

/-- The region of a slot. -/
def region? (pool : RegionPool) (slot : Nat) : Option DeviceBuffer := pool.regions[slot]?

/-- The region of a slot; a slot without one is refused. -/
def region (pool : RegionPool) (slot : Nat) : Except PlanError DeviceBuffer :=
  match pool.region? slot with
  | some region => .ok region
  | none => .error (.internal (.slotWithoutRegion slot))

/-- The address of the region of a slot; null if there is none. -/
def regionAddress (pool : RegionPool) (slot : Nat) : Address :=
  match pool.region? slot with
  | some region => region.address
  | none => Address.null

/-- The address of a buffer for the request on a slot. -/
def resolve (pool : RegionPool) (slot : Nat) (id : BufferId) : Except PlanError Address :=
  match pool.constants.address? id with
  | some address => .ok address
  | none =>
    match pool.layout.offset? id with
    | some offset => (pool.region slot).map fun region => region.address + offset
    | none => .error (.unknownBuffer id)

/-- The addresses of several buffers, in order. -/
def resolveAll (pool : RegionPool) (slot : Nat) (ids : List BufferId) :
    Except PlanError (List Address) :=
  ids.mapM (pool.resolve slot)

/-- A lease as records show it. -/
def shownLease (pool : RegionPool) (slot : Nat) : String :=
  Text.record "MemoryManager"
    [("slot", toString slot), ("region", Address.shown (pool.regionAddress slot))]

variable {δ : Type} [Device δ]

/-- Gives back regions that are listed from the latest one on, in the order in which they were made. -/
def releaseMade (made : List DeviceBuffer) (site : Site δ) : Site δ :=
  DeviceBuffer.releaseAll made.reverse site

/-- Allocates further regions beside those made already, which are listed from the latest one on; a failure
gives all of them back. -/
def createRegions (size : Nat) : Nat → List DeviceBuffer → Act δ DeviceFault (List DeviceBuffer)
  | 0, made => pure made.reverse
  | more + 1, made => do
    let region ← (DeviceBuffer.create size).orUndo (releaseMade made)
    createRegions size more (region :: made)

/-- The report of a new pool. -/
def createdEvent (count : Nat) (constants : ConstantBlock) (layout : Layout) : Event where
  level := .info
  part := .pool
  message :=
    s!"MemoryManagerPool created: {count} regions x {layout.size} bytes, " ++
      s!"constant block {constants.size} bytes"

/-- Allocates the regions; a pool without regions and regions without bytes are refused. -/
def allocateRegions (count : Nat) (layout : Layout) : Act δ PlanError (List DeviceBuffer) :=
  if count = 0 then Act.fail (.invalidConfiguration .emptyPool)
  else if layout.size = 0 then Act.fail .modelNotLoaded
  else (createRegions layout.size count []).mapError .device

/-- A pool of that many regions. It takes over the block of constants: a failure gives the block back. -/
def create (count : Nat) (constants : ConstantBlock) (layout : Layout) : Act δ PlanError RegionPool := do
  let regions ← (allocateRegions count layout).orUndo constants.release
  Act.note (createdEvent count constants layout)
  return ⟨constants, layout, regions, .ofCount count⟩

/-- Gives all memory of the pool back: the constants, then the regions. -/
def release (pool : RegionPool) (site : Site δ) : Site δ :=
  DeviceBuffer.releaseAll pool.regions (pool.constants.release site)

end RegionPool
end MemoryPlan
