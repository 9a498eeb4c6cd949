import MemoryPlan.Word
import MemoryPlan.Device
/-!
# A device in host memory

`HostDevice` keeps of every allocation the bytes up to the last one written; all others are zero
(`Allocation.byteAt`). Addresses start at a fixed base, every allocation starts at a multiple of
`addressStep`, and no address is handed out twice. An access must lie inside one live allocation. Every
operation that fails leaves the device as it was, which its type shows.

The memory of the host is taken to suffice for what a device hands out. A host that has no room for the
zeroed bytes of an allocation ends the program, however much memory the device says is free.
-/

namespace MemoryPlan

/-- A piece of memory that was handed out. -/
structure Allocation where
  /-- The address of the first byte. -/
  base : Address
  /-- The number of bytes. -/
  size : Nat
  /-- The bytes up to the last one written. -/
  written : Bytes := []
  deriving DecidableEq, Repr

namespace Allocation

/-- The byte at an offset: zero, unless it was written. -/
def byteAt (a : Allocation) (i : Nat) : UInt8 := a.written.getD i 0

/-- That many bytes from an offset on. -/
def read (a : Allocation) (offset length : Nat) : Bytes :=
  let present := (a.written.drop offset).take length
  present ++ List.replicate (length - present.length) 0

/-- The allocation with bytes written from an offset on. -/
def write (a : Allocation) (offset : Nat) (data : Bytes) : Allocation :=
  { a with
    written := a.written.take offset ++ List.replicate (offset - a.written.length) 0 ++ data ++
      a.written.drop (offset + data.length) }

@[simp] theorem length_read (a : Allocation) (offset length : Nat) :
    (a.read offset length).length = length := by
  simp only [read, List.length_append, List.length_replicate, List.length_take, List.length_drop]
  omega

theorem getD_read (a : Allocation) {offset length i : Nat} (h : i < length) :
    (a.read offset length).getD i 0 = a.byteAt (offset + i) := by
  simp only [read, byteAt]
  grind

/-- A write changes the bytes in its range and no others. -/
theorem byteAt_write (a : Allocation) (offset : Nat) (data : Bytes) (i : Nat) :
    (a.write offset data).byteAt i =
      if offset ≤ i ∧ i < offset + data.length then data.getD (i - offset) 0 else a.byteAt i := by
  simp only [write, byteAt, List.getD_eq_getElem?_getD, List.append_assoc, List.getElem?_append,
    List.getElem?_take, List.getElem?_drop, List.getElem?_replicate, List.length_take,
    List.length_replicate]
  by_cases before : i < offset
  · by_cases inside : i < a.written.length
    · have kept : i < min offset a.written.length := by omega
      simp [kept, before, inside, show ¬offset ≤ i by omega]
    · have past : ¬i < min offset a.written.length := by omega
      have padded : i - min offset a.written.length < offset - a.written.length := by omega
      simp [past, padded, show ¬offset ≤ i by omega, List.getElem?_eq_none (Nat.le_of_not_lt inside)]
  · have past : ¬i < min offset a.written.length := by omega
    have behind : ¬i - min offset a.written.length < offset - a.written.length := by omega
    have shift : i - min offset a.written.length - (offset - a.written.length) = i - offset := by omega
    by_cases within : i - offset < data.length
    · simp [past, behind, shift, within, Nat.le_of_not_lt before, show i < offset + data.length by omega]
    · have rest : offset + data.length + (i - offset - data.length) = i := by omega
      simp [past, behind, shift, within, rest, show ¬i < offset + data.length by omega]

end Allocation

/-- What the device counts. -/
structure HostStats where
  /-- Successful allocations. -/
  allocations : Nat := 0
  /-- Successful frees. -/
  frees : Nat := 0
  /-- Bytes handed out at present. -/
  liveBytes : Nat := 0
  /-- The most bytes ever handed out at once. -/
  peakBytes : Nat := 0
  deriving DecidableEq, Repr

namespace HostStats

/-- The counts after an allocation. -/
def allocated (stats : HostStats) (size : Nat) : HostStats where
  allocations := stats.allocations + 1
  frees := stats.frees
  liveBytes := stats.liveBytes + size
  peakBytes := max stats.peakBytes (stats.liveBytes + size)

/-- The counts after a free. -/
def freed (stats : HostStats) (size : Nat) : HostStats :=
  { stats with frees := stats.frees + 1, liveBytes := stats.liveBytes - size }

end HostStats

/-- A device in host memory. -/
structure HostDevice where
  /-- All bytes. -/
  total : Nat
  /-- The number of the device on its host. -/
  ordinal : Int := 0
  /-- The name of the device. -/
  label : String := "host-simulated"
  /-- Bytes that somebody else uses. -/
  reserved : Nat := 0
  /-- How many requests it runs at once. -/
  streamLimit : Nat := 8
  /-- The live allocations that were made before the last free, by ascending base. -/
  settled : List Allocation := []
  /-- The allocations that were made since, the latest one first. -/
  recent : List Allocation := []
  /-- The base of the next allocation. -/
  nextAddress : Address := 0x10000000
  /-- What was counted so far. -/
  stats : HostStats := {}
  deriving DecidableEq, Repr

namespace HostDevice

/-- Allocations start at multiples of this number. -/
def addressStep : Nat := 256

/-- The live allocations, by ascending base. -/
def live (device : HostDevice) : List Allocation :=
  match device.recent with
  | [] => device.settled
  | recent => device.settled ++ recent.reverse

/-- Lets somebody else use some bytes, at most all. -/
def withReserved (device : HostDevice) (bytes : Nat) : HostDevice :=
  { device with reserved := min bytes device.total }

/-- The bytes that can still be handed out. -/
def freeBytes (device : HostDevice) : Nat :=
  device.total - device.reserved - device.stats.liveBytes

/-- The amounts of memory. -/
def memoryInfo (device : HostDevice) : MemoryInfo := ⟨device.freeBytes, device.total⟩

/-- The words of a crash in which an address leaves the word range. -/
def addressOverflow : String := "address arithmetic overflows"

/-- Hands out zeroed bytes at the next address. The address behind them is rounded up with checked sums, the first
of which adds a whole step: where this sum is no word the call breaks off, even if the rounded address is one. -/
def allocate (device : HostDevice) (size : Nat) :
    Except (Halt DeviceFault) (Address × HostDevice) :=
  if device.freeBytes < size then
    .error (.error (.allocationFailed (.outOfMemory size device.freeBytes)))
  else match Word.alignUpChecked? (device.nextAddress + max size 1) addressStep with
    | none => .error (.crash addressOverflow)
    | some next => .ok (device.nextAddress,
      { device with
        recent := ⟨device.nextAddress, size, []⟩ :: device.recent
        nextAddress := next
        stats := device.stats.allocated size })

/-- The live allocation with that base. -/
def allocationAt? (device : HostDevice) (address : Address) : Option Allocation :=
  device.live.find? fun a => a.base = address

/-- Takes back the allocation with that base. -/
def free (device : HostDevice) (address : Address) : Except DeviceFault HostDevice :=
  match device.allocationAt? address with
  | none => .error (.invalidAddress (.unknownFree address))
  | some a => .ok
    { device with
      settled := device.live.eraseP fun other => other.base = address
      recent := []
      stats := device.stats.freed a.size }

/-- The last live allocation that starts at or below an address. -/
def below? (device : HostDevice) (address : Address) : Option Allocation :=
  (device.live.filter fun a => a.base ≤ address).getLast?

/-- The allocation that holds the `length` bytes at an address. The end of the range, counted from the
base of the allocation, is computed as a word: a range that ends beyond breaks the computation off. -/
def locate (device : HostDevice) (address : Address) (length : Nat) :
    Except (Halt DeviceFault) Allocation :=
  match device.below? address with
  | none => .error (.error (.invalidAddress (.notAllocated address)))
  | some a =>
    match Word.add? (address - a.base) length with
    | none => .error (.crash addressOverflow)
    | some stop =>
      if a.size < stop then .error (.error (.invalidAddress (.beyond address length a.base a.size)))
      else .ok a

/-- Writes bytes at an address. -/
def copyIn (device : HostDevice) (address : Address) (data : Bytes) :
    Except (Halt DeviceFault) HostDevice :=
  (device.locate address data.length).map fun target =>
    let change (a : Allocation) := if a.base = target.base then a.write (address - a.base) data else a
    { device with settled := device.settled.map change, recent := device.recent.map change }

/-- Reads bytes at an address. -/
def copyOut (device : HostDevice) (address : Address) (length : Nat) :
    Except (Halt DeviceFault) Bytes :=
  (device.locate address length).map fun a => a.read (address - a.base) length

theorem live_eq (device : HostDevice) : device.live = device.settled ++ device.recent.reverse := by
  unfold live
  split <;> simp_all

/-- An allocation becomes the last of the live ones. -/
theorem live_allocate {device after : HostDevice} {size : Nat} {address : Address}
    (h : device.allocate size = .ok (address, after)) :
    address = device.nextAddress ∧ after.live = device.live ++ [⟨device.nextAddress, size, []⟩] := by
  unfold allocate at h
  split at h
  · cases h
  · split at h
    · cases h
    · obtain ⟨rfl, rfl⟩ := Prod.mk.inj (Except.ok.inj h)
      simp [live_eq]

/-- A free takes the first live allocation with that base away, and there has to be one. -/
theorem live_free {device after : HostDevice} {address : Address} (h : device.free address = .ok after) :
    (∃ a, device.allocationAt? address = some a) ∧
      after.live = device.live.eraseP fun a => a.base = address := by
  unfold free at h
  split at h
  · cases h
  · next a ha =>
    obtain rfl := Except.ok.inj h
    exact ⟨⟨a, ha⟩, by rw [live_eq]; simp⟩

/-- A write changes one live allocation. -/
theorem live_copyIn {device after : HostDevice} {address : Address} {data : Bytes}
    (h : device.copyIn address data = .ok after) :
    ∃ target, device.locate address data.length = .ok target ∧
      after.live = device.live.map fun a =>
        if a.base = target.base then a.write (address - a.base) data else a := by
  unfold copyIn at h
  cases htarget : device.locate address data.length with
  | error halt => simp [htarget, Except.map] at h
  | ok target =>
    rw [htarget] at h
    obtain rfl := Except.ok.inj h
    exact ⟨target, rfl, by simp [live_eq]⟩

/-- A write leaves everything but the allocations as it was. -/
theorem frame_copyIn {device after : HostDevice} {address : Address} {data : Bytes}
    (h : device.copyIn address data = .ok after) :
    ∃ settled recent, after = { device with settled, recent } := by
  unfold copyIn at h
  cases htarget : device.locate address data.length with
  | error halt => simp [htarget, Except.map] at h
  | ok target =>
    rw [htarget] at h
    exact ⟨_, _, (Except.ok.inj h).symm⟩

/-- The outcome of an operation beside the device after it. -/
def settle {ε α : Type} (device : HostDevice) : Except ε (α × HostDevice) → Except ε α × HostDevice
  | .ok (a, after) => (.ok a, after)
  | .error fault => (.error fault, device)

instance : Device HostDevice where
  ordinal := ordinal
  label := label
  streamLimit := streamLimit
  memoryInfo device := (.ok device.memoryInfo, device)
  allocate device size := settle device (device.allocate size)
  free device address := settle device ((device.free address).map fun after => ((), after))
  copyIn device address data := settle device ((device.copyIn address data).map fun after => ((), after))
  copyOut device address length := (device.copyOut address length, device)

end HostDevice
end MemoryPlan
