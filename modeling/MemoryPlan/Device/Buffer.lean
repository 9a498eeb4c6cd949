import MemoryPlan.Word
import MemoryPlan.Device
/-!
# Device buffers

A device buffer owns one allocation. Copies name an offset in the buffer and are refused when they would
leave it; releasing the buffer gives the allocation back and never fails, a refusal is only reported.
-/

namespace MemoryPlan

/-- An owned allocation of a device. -/
structure DeviceBuffer where
  /-- The address of the first byte. -/
  address : Address
  /-- The number of bytes. -/
  size : Nat
  deriving DecidableEq, Repr

namespace DeviceBuffer

variable {δ : Type} [Device δ]

/-- Allocates a buffer of at least one byte. -/
def create (size : Nat) : Act δ DeviceFault DeviceBuffer := do
  if size = 0 then Act.fail (.allocationFailed .zeroSize)
  else
    let address ← Act.call fun device => Device.allocate device size
    Act.note
      { level := .trace, part := .device,
        message := s!"DeviceBuffer::new: {size} bytes at {Address.text address}" }
    return ⟨address, size⟩

/-- Refuses a range that does not lie in the buffer. -/
def checkRange (buffer : DeviceBuffer) (offset length : Nat) : Except DeviceFault Unit :=
  match Word.add? offset length with
  | some stop =>
    if stop ≤ buffer.size then .ok ()
    else .error (.copyFailed (.outOfBounds offset length buffer.size))
  | none => .error (.copyFailed (.outOfBounds offset length buffer.size))

/-- Writes bytes at an offset. -/
def copyIn (buffer : DeviceBuffer) (offset : Nat) (data : Bytes) : Act δ DeviceFault Unit := do
  Act.ofExcept (buffer.checkRange offset data.length)
  Act.call fun device => Device.copyIn device (buffer.address + offset) data

/-- Reads bytes at an offset. -/
def copyOut (buffer : DeviceBuffer) (offset length : Nat) : Act δ DeviceFault Bytes := do
  Act.ofExcept (buffer.checkRange offset length)
  Act.call fun device => Device.copyOut device (buffer.address + offset) length

/-- Gives the allocation back; a refusal of the device is reported. -/
def release (buffer : DeviceBuffer) (site : Site δ) : Site δ :=
  match Device.free site.device buffer.address with
  | (.ok _, device) => { site with device }
  | (.error fault, device) =>
    Site.note { site with device }
      { level := .error, part := .device,
        message :=
          s!"DeviceBuffer::drop: failed to free {Address.text buffer.address}: {fault.message}" }

/-- Gives back the allocations of several buffers, in order. -/
def releaseAll (buffers : List DeviceBuffer) (site : Site δ) : Site δ :=
  buffers.foldl (fun site buffer => buffer.release site) site

/-- The buffer as records show it, on the device of that ordinal. -/
def shown (buffer : DeviceBuffer) (ordinal : Int) : String :=
  Text.record "DeviceBuffer"
    [("device", toString ordinal), ("ptr", Address.shown buffer.address), ("size", toString buffer.size)]

end DeviceBuffer
end MemoryPlan
