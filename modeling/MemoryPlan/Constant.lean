import MemoryPlan.Alignment
import MemoryPlan.Layout
import MemoryPlan.Progress
import MemoryPlan.Device.Buffer
/-!
# Constants

The constants of a plan lie one after the other in one block of device memory, which is written once and
shared by all requests. Offsets are rounded up to the alignment; nothing is ever given back before the
whole block is.
-/

namespace MemoryPlan

/-- A constant at its place in the block. -/
structure Constant where
  /-- The buffer. -/
  id : BufferId
  /-- The offset in the block. -/
  offset : Nat
  /-- The bytes. -/
  data : Bytes
  deriving DecidableEq, Repr

namespace Constant

/-- The first offset behind the constant. -/
def stop (c : Constant) : Nat := c.offset + c.data.length

end Constant

/-- The constants of a plan, to be packed into one block. -/
structure ConstantSet where
  /-- The alignment of offsets. -/
  alignment : Alignment := .byte
  /-- The constants, in the order in which they were added. -/
  constants : List Constant := []
  deriving DecidableEq, Repr

namespace ConstantSet

instance : Inhabited ConstantSet := ⟨{}⟩

/-- The bytes of the block: the end of the last constant. -/
def size (set : ConstantSet) : Nat :=
  match set.constants.getLast? with
  | none => 0
  | some c => c.stop

/-- The offset of a further constant of that many bytes, unless the block would leave the word range. -/
def nextOffset? (set : ConstantSet) (length : Nat) : Option Nat := do
  let offset ← set.alignment.up? set.size
  let _ ← Word.add? offset length
  return offset

/-- Adds the bytes of a constant; refuses a second constant of one id and an overflow, in this order. -/
def add (set : ConstantSet) (id : BufferId) (data : Bytes) : Except PlanError ConstantSet :=
  if set.constants.any fun other => other.id = id then
    .error (.invalidAllocation (.duplicateConstant id))
  else match set.nextOffset? data.length with
    | none => .error (.invalidAllocation (.constantOverflow id data.length set.size))
    | some offset => .ok { set with constants := set.constants ++ [⟨id, offset, data⟩] }

/-- Adds constants until one is refused. -/
def addAll (set : ConstantSet) (items : List (BufferId × Bytes)) : Progress ConstantSet PlanError :=
  Progress.walk (fun set (id, data) => set.add id data) set items

/-- The report of an added constant. -/
def addedEvent (c : Constant) : Event where
  level := .trace
  part := .constants
  message :=
    s!"ImmutableMemoryBlockBuilder: {c.id.text} at offset {c.offset} ({c.data.length} bytes)"

/-- The reports of all constants of the set. -/
def events (set : ConstantSet) : List Event := set.constants.map addedEvent

/-- The offsets of the constants. -/
def layout (set : ConstantSet) : Layout where
  size := set.size
  entries := set.constants.map fun c => (c.id, c.offset)

end ConstantSet

/-- The block of constants on a device. -/
structure ConstantBlock where
  /-- The memory of the block; absent if there are no bytes. -/
  buffer : Option DeviceBuffer := none
  /-- The offsets of the constants. -/
  layout : Layout := .empty
  deriving DecidableEq, Repr

namespace ConstantBlock

instance : Inhabited ConstantBlock := ⟨{}⟩

/-- The block without constants. -/
def empty : ConstantBlock := {}

/-- The bytes of the block. -/
def size (block : ConstantBlock) : Nat := block.layout.size

/-- The address that offsets count from; null if there is no memory. -/
def base (block : ConstantBlock) : Address :=
  match block.buffer with
  | none => Address.null
  | some buffer => buffer.address

/-- The address of a constant, if the block holds it. -/
def address? (block : ConstantBlock) (id : BufferId) : Option Address :=
  (block.layout.offset? id).map (block.base + ·)

variable {δ : Type} [Device δ]

/-- Writes constants into a buffer, in order, each at its offset in a layout; those without bytes need no write. -/
def uploadAll (buffer : DeviceBuffer) (layout : Layout) : List Constant → Act δ PlanError Unit
  | [] => pure ()
  | c :: rest => do
    if c.data.isEmpty then uploadAll buffer layout rest
    else match layout.offset? c.id with
      | none => Act.fail (.internal (.constantWithoutOffset c.id))
      | some offset =>
        (buffer.copyIn offset c.data).mapError .device
        uploadAll buffer layout rest

/-- Packs the constants of a set into device memory; without bytes nothing is allocated. A failed write
gives the memory back. -/
def upload (set : ConstantSet) : Act δ PlanError ConstantBlock := do
  if set.size = 0 then
    Act.note
      { level := .debug, part := .constants,
        message := "Constant block is empty, skipping device allocation" }
    return ⟨none, set.layout⟩
  else
    let buffer ← (DeviceBuffer.create set.size).mapError .device
    (uploadAll buffer set.layout set.constants).orUndo buffer.release
    Act.note
      { level := .info, part := .constants,
        message :=
          s!"Constant block uploaded: {set.constants.length} buffers, {set.size} bytes " ++
            s!"at {Address.text buffer.address}" }
    return ⟨some buffer, set.layout⟩

/-- Gives the memory of the block back. -/
def release (block : ConstantBlock) (site : Site δ) : Site δ :=
  match block.buffer with
  | none => site
  | some buffer => buffer.release site

end ConstantBlock
end MemoryPlan
