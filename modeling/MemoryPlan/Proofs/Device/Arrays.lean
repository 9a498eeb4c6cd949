import Mathlib.Data.List.Forall2
import MemoryPlan.Proofs.Device.Bookkeeping
import MemoryPlan.Proofs.Device.Bounds
/-!
# The arrays of a host device

The memory of a host device is a separate array of bytes for each allocation. A copy succeeds exactly inside one
live allocation, a read yields what was last written there, and a write changes the bytes of its range alone. What
was taken back is never accessed again, since no later allocation lies there. All of this is one invariant
(`Tracks`) that every turn of a history keeps.
-/

namespace MemoryPlan

namespace Allocation

/-- A write makes the allocation reach to its end. -/
theorem length_write (a : Allocation) (offset : Nat) (data : Bytes) :
    (a.write offset data).written.length = max a.written.length (offset + data.length) := by
  simp only [write, List.length_append, List.length_take, List.length_replicate, List.length_drop]
  omega

@[simp] theorem base_write (a : Allocation) (offset : Nat) (data : Bytes) :
    (a.write offset data).base = a.base := rfl

/-- Bytes that are written apart from each other may be written in either order. -/
theorem write_comm (a : Allocation) {i j : Nat} {xs ys : Bytes}
    (hapart : ∀ k, i ≤ k ∧ k < i + xs.length → ¬(j ≤ k ∧ k < j + ys.length)) :
    (a.write i xs).write j ys = (a.write j ys).write i xs := by
  have hlength : ((a.write i xs).write j ys).written.length = ((a.write j ys).write i xs).written.length := by
    simp only [length_write]
    omega
  have hwritten : ((a.write i xs).write j ys).written = ((a.write j ys).write i xs).written := by
    apply List.ext_getElem hlength
    intro k hk hk'
    rw [List.getElem_eq_getD 0, List.getElem_eq_getD 0]
    change ((a.write i xs).write j ys).byteAt k = ((a.write j ys).write i xs).byteAt k
    simp only [byteAt_write]
    by_cases hin : i ≤ k ∧ k < i + xs.length
    · rw [if_neg (hapart k hin), if_pos hin, if_pos hin]
    · rw [if_neg hin, if_neg hin]
  calc (a.write i xs).write j ys = { a with written := ((a.write i xs).write j ys).written } := rfl
    _ = { a with written := ((a.write j ys).write i xs).written } := by rw [hwritten]
    _ = (a.write j ys).write i xs := rfl

end Allocation

namespace HostDevice

/-- What a turn does to the bytes last written: an allocation starts with zeros, and a write replaces those of its
range. -/
def noted (memory : Memory) (turn : HostTurn) : Memory :=
  match turn.call, turn.reply with
  | .allocate size, .ok (.address base) => memory.write base (List.replicate size 0)
  | .copyIn address data, .ok _ => memory.write address data
  | _, _ => memory

/-- The byte last written at each address since the allocation there was made, and zero if there was none. -/
def lastWritten (earlier : List HostTurn) : Memory := earlier.foldl noted fun _ => 0

/-- A turn took back the allocation that lay there. -/
def TookBack (turn : HostTurn) (place : TensorPlace) : Prop :=
  turn.call = .free place.start ∧ turn.reply = .ok .done ∧ place ∈ turn.before.extents

/-- A write changed the bytes of its range, and nothing else of the device. -/
structure Overwritten (address : Address) (data : Bytes) (before after : HostDevice) : Prop where
  /-- Each allocation stays where it is, with its bytes outside of the range. -/
  live : List.Forall₂ (fun old new => new.place = old.place ∧ ∀ x, old.place.Has x →
    new.byteAt (x - old.base) = if address ≤ x ∧ x < address + data.length then data.getD (x - address) 0
      else old.byteAt (x - old.base)) before.live after.live
  /-- All but the allocations stays as it was. -/
  others : { after with settled := [], recent := [] } = { before with settled := [], recent := [] }

/-- What a turn may do, given those before it. -/
structure Behaves (earlier : List HostTurn) (turn : HostTurn) : Prop where
  /-- A copy of at least one byte succeeds exactly if its range lies in one live allocation. -/
  succeeds : ∀ address length, turn.call.range? = some (address, length) → 0 < length →
    ((∃ reply, turn.reply = .ok reply) ↔ ∃ place ∈ turn.before.extents, place.Covers address length)
  /-- A read yields the bytes last written, and changes nothing. -/
  reads : ∀ address length reply, turn.call = .copyOut address length → turn.reply = .ok reply →
    reply = .bytes ((lastWritten earlier).bytes address length) ∧ turn.after = turn.before
  /-- A write changes the bytes of its range and nothing else. -/
  writes : ∀ address data reply, turn.call = .copyIn address data → turn.reply = .ok reply →
    Overwritten address data turn.before turn.after
  /-- A failed copy names an address that is not valid, and changes nothing. -/
  fails : ∀ range halt, turn.call.range? = some range → turn.reply = .error halt →
    (∃ cause, halt = .error (.invalidAddress cause)) ∧ turn.after = turn.before
  /-- A copy that touches a byte of what was taken back fails. -/
  forbidden : ∀ past ∈ earlier, ∀ place, TookBack past place → ∀ address length,
    turn.call.range? = some (address, length) → ∀ x, place.Has x → address ≤ x ∧ x < address + length →
    ∃ halt, turn.reply = .error halt
  /-- A call is broken off only where the addresses end, and not by a copy. -/
  breaks : ∀ reason, turn.reply = .error (.crash reason) → ∃ size, turn.call = .allocate size ∧
    Word.limit ≤ turn.before.nextAddress + max size 1 + addressStep

/-- Two ranges have no byte in common. -/
def RangesApart (address length other size : Nat) : Prop :=
  ∀ x, address ≤ x ∧ x < address + length → ¬(other ≤ x ∧ x < other + size)

variable {device after : HostDevice} {earlier : List HostTurn} {turn : HostTurn} {address : Address}
  {data : Bytes} {length : Nat}

/-- One more turn notes what it did to the bytes. -/
@[simp] theorem lastWritten_concat (earlier : List HostTurn) (turn : HostTurn) :
    lastWritten (earlier ++ [turn]) = noted (lastWritten earlier) turn := by
  simp [lastWritten, List.foldl_append]

/-- What the turns of a history leave behind. -/
structure Tracks (earlier : List HostTurn) (device : HostDevice) : Prop where
  /-- The live allocations lie one behind the other. -/
  sound : device.Sound
  /-- The bytes of the live allocations are those last written. -/
  memory : ∀ place ∈ device.extents, ∀ x, place.Has x → device.memory x = lastWritten earlier x
  /-- What was taken back lies below the next address, apart from all that is live. -/
  gone : ∀ past ∈ earlier, ∀ place, TookBack past place →
    place.stop ≤ device.nextAddress ∧ ∀ other ∈ device.extents, place.Apart other

/-- A located range lies in a live allocation, and so a byte of it was not taken back. -/
theorem Tracks.not_gone (h : Tracks earlier device) {past : HostTurn} (hpast : past ∈ earlier)
    {place : TensorPlace} (hback : TookBack past place) {a : Allocation}
    (hlocate : device.locate address length = .ok a) {x : Nat} (hx : place.Has x) :
    ¬(address ≤ x ∧ x < address + length) := by
  rintro ⟨hle, hlt⟩
  obtain ⟨ha, hstart, hstop⟩ := covers_of_locate hlocate
  exact (h.gone past hpast place hback).2 a.place (mem_extents.mpr ⟨a, ha, rfl⟩) x hx
    ⟨Nat.le_trans hstart hle, Nat.lt_of_lt_of_le hlt hstop⟩

/-- A range of words that is not located lies in no live allocation, and the fault is that of an invalid address. -/
theorem Sound.locate_eq_error (hs : device.Sound) (hword : address + length < Word.limit) {halt : Halt DeviceFault}
    (hlocate : device.locate address length = .error halt) :
    (∃ cause, halt = .error (.invalidAddress cause)) ∧
      ¬∃ place ∈ device.extents, place.Covers address length := by
  constructor
  · obtain rfl | hcause := locate_error_cases hlocate
    · exact absurd (locate_crash_iff.mp hlocate) (not_overflows hword)
    · exact hcause
  · intro hcovered
    obtain ⟨a, hok⟩ := hs.exists_locate_iff.mpr hcovered
    cases hlocate.symm.trans hok

/-- A write that succeeds changes the bytes of its range and nothing else. -/
theorem Sound.overwritten (hs : device.Sound) (hop : device.copyIn address data = .ok after) :
    Overwritten address data device after := by
  obtain ⟨hextents, hnext⟩ := extents_copyIn hop
  have hsound : after.Sound := hs.of_extents hextents hnext
  have hmemory := hs.memory_copyIn hop
  obtain ⟨target, -, hlive⟩ := live_copyIn hop
  change after.live = device.live.map (writeAt target.base address data) at hlive
  constructor
  · rw [hlive, List.forall₂_map_right_iff, List.forall₂_same]
    intro old hold
    have hplace := place_writeAt target.base address data old
    refine ⟨hplace, ?_⟩
    intro x hx
    have hnew : writeAt target.base address data old ∈ after.live := by
      rw [hlive]
      exact List.mem_map_of_mem hold
    have hread := hsound.memory_eq hnew (by rw [hplace]; exact hx)
    rw [hplace, hmemory] at hread
    change Allocation.byteAt _ (x - old.place.start) = if _ then _ else old.byteAt (x - old.place.start)
    rw [← hread, ← hs.memory_eq hold hx]
    rfl
  · obtain ⟨_, _, rfl⟩ := frame_copyIn hop
    rfl

/-- A copy whose range consists of words locates it in a live allocation, or names an address that is not valid. -/
theorem Move.copy_cases (hmove : Move turn) (hs : turn.before.Sound)
    (hrange : turn.call.range? = some (address, length)) (hword : address + length < Word.limit) :
    (∃ a reply, turn.before.locate address length = .ok a ∧ turn.reply = .ok reply) ∨
    ∃ cause, turn.reply = .error (.error (.invalidAddress cause)) ∧
      ¬∃ place ∈ turn.before.extents, place.Covers address length := by
  obtain ⟨a, reply, hlocate, hreply⟩ | ⟨halt, hlocate, hreply, -⟩ := hmove.located hrange
  · exact Or.inl ⟨a, reply, hlocate, hreply⟩
  · obtain ⟨⟨cause, rfl⟩, hnone⟩ := hs.locate_eq_error hword hlocate
    exact Or.inr ⟨cause, hreply, hnone⟩

/-- A call whose range consists of words is broken off only where the addresses end, and not if it is a copy. -/
theorem Move.breaks (hmove : Move turn) (hs : turn.before.Sound)
    (hword : ∀ address length, turn.call.range? = some (address, length) → address + length < Word.limit)
    {reason : String} (hcrash : turn.reply = .error (.crash reason)) : ∃ size, turn.call = .allocate size ∧
      Word.limit ≤ turn.before.nextAddress + max size 1 + addressStep := by
  obtain ⟨size, hcall, hop⟩ | ⟨address, length, hrange, hlocate⟩ := hmove.crashed hcrash
  · obtain ⟨-, hother⟩ | ⟨-, -, hlimit⟩ := allocate_eq_error hop
    · cases hother
    · exact ⟨size, hcall, hlimit⟩
  · obtain ⟨⟨cause, hother⟩, -⟩ := hs.locate_eq_error (hword _ _ hrange) hlocate
    cases hother

namespace Tracks

variable (h : Tracks earlier turn.before)
include h

/-- A turn that leaves the allocations where they are takes nothing back, and keeps the bytes if it notes what it
did to them. -/
theorem of_alike (hextents : turn.after.extents = turn.before.extents)
    (hnext : turn.after.nextAddress = turn.before.nextAddress) (hback : ∀ place, ¬TookBack turn place)
    (hmemory : ∀ place ∈ turn.before.extents, ∀ x, place.Has x →
      turn.after.memory x = noted (lastWritten earlier) turn x) :
    Tracks (earlier ++ [turn]) turn.after := by
  refine ⟨h.sound.of_extents hextents hnext, ?_, Turn.forall_concat ?_ fun place hplace => absurd hplace (hback place)⟩
  · rw [hextents, lastWritten_concat]
    exact hmemory
  · rw [hextents, hnext]
    exact h.gone

/-- A failed turn changes nothing. -/
theorem failed {halt : Halt DeviceFault} (hreply : turn.reply = .error halt) (hsame : turn.after = turn.before) :
    Tracks (earlier ++ [turn]) turn.after := by
  have hnoted : noted (lastWritten earlier) turn = lastWritten earlier := by
    unfold noted
    rw [hreply]
    split <;> simp_all
  refine h.of_alike (by rw [hsame]) (by rw [hsame]) ?_ ?_
  · rintro place ⟨-, hdone, -⟩
    cases hreply.symm.trans hdone
  · rw [hsame, hnoted]
    exact h.memory

/-- A new allocation has zeros, and lies behind all that was taken back. -/
theorem allocate {size : Nat} (hcall : turn.call = .allocate size) (hreply : turn.reply = .ok (.address address))
    (hop : turn.before.allocate size = .ok (address, turn.after)) :
    Tracks (earlier ++ [turn]) turn.after := by
  obtain ⟨hsound, hextents, hbehind, hmemory⟩ := h.sound.allocate hop
  have haddress := (live_allocate hop).1
  have hnoted : lastWritten (earlier ++ [turn]) =
      (lastWritten earlier).write address (List.replicate size 0) := by
    rw [lastWritten_concat, noted, hcall, hreply]
  have hnext : turn.before.nextAddress ≤ turn.after.nextAddress := by
    have hend := (nextAddress_allocate hop).1
    simp only [Address] at *
    omega
  refine ⟨hsound, ?_, Turn.forall_concat ?_ ?_⟩
  · rw [hnoted, hextents]
    intro place hplace x hx
    rcases List.mem_append.mp hplace with hold | hnew
    · have hlt : x < address := (hbehind place hold).lt_start hx
      rw [hmemory x hlt, Memory.write_outside (Or.inl hlt)]
      exact h.memory place hold x hx
    · obtain rfl := List.mem_singleton.mp hnew
      obtain ⟨hle, hlt⟩ := hx
      have hin : address ≤ x ∧ x < address + (List.replicate size (0 : UInt8)).length := by
        rw [List.length_replicate]
        exact ⟨hle, hlt⟩
      rw [h.sound.memory_allocate hop ⟨hle, hlt⟩, Memory.write, if_pos hin]
      simp only [List.getD_eq_getElem?_getD, List.getElem?_replicate]
      split <;> rfl
  · intro past hpast place hback
    obtain ⟨hstop, hapart⟩ := h.gone past hpast place hback
    refine ⟨Nat.le_trans hstop hnext, ?_⟩
    rw [hextents]
    intro other hother x hx
    rcases List.mem_append.mp hother with hold | hnew
    · exact hapart other hold x hx
    · rw [List.mem_singleton.mp hnew]
      rintro ⟨hle, -⟩
      have hlt : x < place.stop := hx.2
      change address ≤ x at hle
      simp only [Address] at *
      omega
  · rintro place ⟨hfree, -⟩
    cases hcall.symm.trans hfree

/-- What is taken back lies apart from the allocations that stay. -/
theorem free (hcall : turn.call = .free address) {a : Allocation}
    (hfound : turn.before.allocationAt? address = some a)
    (hop : turn.before.free address = .ok turn.after) : Tracks (earlier ++ [turn]) turn.after := by
  obtain ⟨hsound, -, hmemory⟩ := h.sound.free hop
  obtain ⟨⟨front, behind, hbefore, hafter⟩, -, -, -, hnext⟩ := free_eq_ok hfound hop
  have hsub : turn.after.extents.Sublist turn.before.extents := by
    rw [hbefore, hafter]
    exact (List.sublist_cons_self _ _).append_left front
  have hnoted : lastWritten (earlier ++ [turn]) = lastWritten earlier := by
    rw [lastWritten_concat, noted, hcall]
  have hbase : a.place.start = address := by
    have hself := List.find?_some hfound
    exact of_decide_eq_true hself
  refine ⟨hsound, ?_, Turn.forall_concat ?_ ?_⟩
  · rw [hnoted]
    intro place hplace x hx
    rw [hmemory place hplace x hx]
    exact h.memory place (hsub.subset hplace) x hx
  · rw [hnext]
    intro past hpast place hback
    obtain ⟨hstop, hapart⟩ := h.gone past hpast place hback
    exact ⟨hstop, fun other hother => hapart other (hsub.subset hother)⟩
  · rintro place ⟨hfree, -, hplace⟩
    have hstart : place.start = address := HostCall.free.inj (hfree.symm.trans hcall)
    have hbelow := h.sound.below place hplace
    rw [hnext]
    refine ⟨by unfold TensorPlace.stop; simp only [Address] at *; omega, ?_⟩
    -- the address is the start of one live allocation, whose neighbours are all that stays
    have hapart := h.sound.apart
    rw [hbefore, List.pairwise_append, List.pairwise_cons] at hapart
    obtain ⟨-, ⟨hbehind, -⟩, hfront⟩ := hapart
    have ha : a.place ∈ turn.before.extents := by
      rw [hbefore]
      exact List.mem_append_right front (List.mem_cons_self ..)
    have hself : place = a.place := h.sound.eq_of_start hplace ha (hstart.trans hbase.symm)
    rw [hself, hafter]
    intro other hother
    rcases List.mem_append.mp hother with hin | hin
    · exact (hfront other hin a.place (List.mem_cons_self ..)).apart.symm
    · exact (hbehind other hin).apart

/-- Every turn leaves behind what the next one needs. -/
theorem step (hmove : Move turn) : Tracks (earlier ++ [turn]) turn.after := by
  cases hmove with
  | allocates hcall hreply hop => exact h.allocate hcall hreply hop
  | refuses hcall hreply hsame => exact h.failed hreply hsame
  | frees hcall hreply hfound hop => exact h.free hcall hfound hop
  | unknown hcall hreply hsame => exact h.failed hreply hsame
  | misses hrange hreply hsame => exact h.failed hreply hsame
  | writes hcall hreply hlocate hop =>
    obtain ⟨hextents, hnext⟩ := extents_copyIn hop
    refine h.of_alike hextents hnext ?_ ?_
    · rintro place ⟨hfree, -⟩
      cases hcall.symm.trans hfree
    · intro place hplace x hx
      rw [h.sound.memory_copyIn hop, noted, hcall, hreply]
      exact Memory.write_congr _ _ (h.memory place hplace x hx)
  | reads hcall hreply hsame =>
    refine h.of_alike (by rw [hsame]) (by rw [hsame]) ?_ ?_
    · rintro place ⟨hfree, -⟩
      cases hcall.symm.trans hfree
    · rw [hsame, noted, hcall]
      exact h.memory

/-- A range that was located holds the bytes last written. -/
theorem read_eq {a : Allocation} (hlocate : turn.before.locate address length = .ok a) :
    a.read (address - a.base) length = (lastWritten earlier).bytes address length := by
  obtain ⟨ha, hcovers⟩ := covers_of_locate hlocate
  have hplace : a.place ∈ turn.before.extents := mem_extents.mpr ⟨a, ha, rfl⟩
  have hread := h.sound.copyOut_eq hplace hcovers
  rw [copyOut, hlocate] at hread
  calc a.read (address - a.base) length = turn.before.memory.bytes address length := Except.ok.inj hread
    _ = (lastWritten earlier).bytes address length := by
      apply Memory.bytes_congr
      intro x hle hlt
      exact h.memory a.place hplace x ⟨Nat.le_trans hcovers.1 hle, Nat.lt_of_lt_of_le hlt hcovers.2⟩

/-- Every turn behaves, given what those before it left behind. -/
theorem behaves (hmove : Move turn)
    (hword : ∀ address length, turn.call.range? = some (address, length) → address + length < Word.limit) :
    Behaves earlier turn := by
  constructor
  case succeeds =>
    intro address length hrange _
    obtain ⟨a, reply, hlocate, hreply⟩ | ⟨cause, hreply, hnone⟩ :=
      hmove.copy_cases h.sound hrange (hword address length hrange)
    · obtain ⟨ha, hcovers⟩ := covers_of_locate hlocate
      exact iff_of_true ⟨reply, hreply⟩ ⟨a.place, mem_extents.mpr ⟨a, ha, rfl⟩, hcovers⟩
    · exact iff_of_false (by simp [hreply]) hnone
  case reads =>
    intro address length reply hcall hok
    cases hmove with
    | reads hself hreply hsame hlocate =>
      obtain ⟨rfl, rfl⟩ := HostCall.copyOut.inj (hcall.symm.trans hself)
      exact ⟨by rw [Except.ok.inj (hok.symm.trans hreply), h.read_eq hlocate], hsame⟩
    | misses hrange hreply => cases hok.symm.trans hreply
    | allocates hself => cases hcall.symm.trans hself
    | refuses hself => cases hcall.symm.trans hself
    | frees hself => cases hcall.symm.trans hself
    | unknown hself => cases hcall.symm.trans hself
    | writes hself => cases hcall.symm.trans hself
  case writes =>
    intro address data reply hcall hok
    cases hmove with
    | writes hself hreply hlocate hop =>
      obtain ⟨rfl, rfl⟩ := HostCall.copyIn.inj (hcall.symm.trans hself)
      exact h.sound.overwritten hop
    | misses hrange hreply => cases hok.symm.trans hreply
    | allocates hself => cases hcall.symm.trans hself
    | refuses hself => cases hcall.symm.trans hself
    | frees hself => cases hcall.symm.trans hself
    | unknown hself => cases hcall.symm.trans hself
    | reads hself => cases hcall.symm.trans hself
  case fails =>
    rintro ⟨address, length⟩ halt hrange herror
    obtain ⟨a, reply, -, hreply⟩ | ⟨cause, hreply, -⟩ :=
      hmove.copy_cases h.sound hrange (hword address length hrange)
    · cases herror.symm.trans hreply
    · exact ⟨⟨cause, Except.error.inj (herror.symm.trans hreply)⟩, hmove.same herror⟩
  case forbidden =>
    intro past hpast place hback address length hrange x hx htouch
    obtain ⟨a, reply, hlocate, -⟩ | ⟨cause, hreply, -⟩ :=
      hmove.copy_cases h.sound hrange (hword address length hrange)
    · exact absurd htouch (h.not_gone hpast hback hlocate hx)
    · exact ⟨_, hreply⟩
  case breaks => exact fun reason hcrash => hmove.breaks h.sound hword hcrash

end Tracks

/-- The device with bytes written to the allocation of that base. -/
def written (device : HostDevice) (base address : Address) (data : Bytes) : HostDevice :=
  { device with
    settled := device.settled.map (writeAt base address data)
    recent := device.recent.map (writeAt base address data) }

/-- The answer to a write, with the device after it spelled out. -/
theorem answer_copyIn_eq (device : HostDevice) (address : Address) (data : Bytes) :
    device.answer (.copyIn address data) = match device.locate address data.length with
      | .ok a => (.ok .done, device.written a.base address data)
      | .error halt => (.error halt, device) := by
  cases hlocate : device.locate address data.length with
  | ok a =>
    simp only [answer, Device.copyIn, HostDevice.copyIn, hlocate, settle, Except.map]
    rfl
  | error halt => simp [answer, Device.copyIn, HostDevice.copyIn, hlocate, settle, Except.map]

@[simp] theorem base_writeAt (base address : Address) (data : Bytes) (a : Allocation) :
    (writeAt base address data a).base = a.base :=
  congrArg TensorPlace.start (place_writeAt base address data a)

@[simp] theorem size_writeAt (base address : Address) (data : Bytes) (a : Allocation) :
    (writeAt base address data a).size = a.size :=
  congrArg TensorPlace.size (place_writeAt base address data a)

/-- A write moves no allocation, so that ranges are located as before. -/
theorem locate_written (device : HostDevice) (base address : Address) (data : Bytes) (other : Address)
    (length : Nat) : (device.written base address data).locate other length =
      (device.locate other length).map (writeAt base address data) := by
  have hlive : (device.written base address data).live = device.live.map (writeAt base address data) := by
    simp [live_eq, written]
  unfold locate
  rw [below?_writeAt other hlive]
  cases device.below? other with
  | none => rfl
  | some b =>
    simp only [Option.map_some, base_writeAt, size_writeAt]
    split
    · rfl
    · split <;> rfl

/-- Writes to ranges that have no byte in common may be swapped. -/
theorem written_comm (device : HostDevice) {other base last : Address} {xs ys : Bytes} (hbase : base ≤ address)
    (hlast : last ≤ other) (hapart : RangesApart address xs.length other ys.length) :
    (device.written base address xs).written last other ys =
      (device.written last other ys).written base address xs := by
  have hswap : writeAt last other ys ∘ writeAt base address xs =
      writeAt base address xs ∘ writeAt last other ys := by
    funext a
    simp only [Function.comp_apply]
    by_cases hb : a.base = base
    · by_cases hl : a.base = last
      · subst hb hl
        simp only [writeAt, Allocation.base_write, if_true]
        apply Allocation.write_comm
        intro k
        have hk := hapart (a.base + k)
        simp only [Address] at *
        omega
      · simp only [writeAt, Allocation.base_write, if_neg hl, if_pos hb]
    · simp only [writeAt, if_neg hb, apply_ite Allocation.base, Allocation.base_write, ite_self]
  simp only [written, List.map_map, hswap]

/-- Two writes to ranges that have no byte in common are answered alike in either order, and lead to the same
device. -/
theorem answer_copyIn_comm (device : HostDevice) {other : Address} {xs ys : Bytes}
    (hapart : RangesApart address xs.length other ys.length) :
    ∃ last, (device.answer (.copyIn address xs)).2.answer (.copyIn other ys) =
        ((device.answer (.copyIn other ys)).1, last) ∧
      (device.answer (.copyIn other ys)).2.answer (.copyIn address xs) =
        ((device.answer (.copyIn address xs)).1, last) := by
  simp only [answer_copyIn_eq]
  cases hfirst : device.locate address xs.length with
  | error halt =>
    cases hsecond : device.locate other ys.length with
    | error fault => exact ⟨device, by simp, by simp [hfirst]⟩
    | ok b => exact ⟨device.written b.base other ys, by simp, by simp [locate_written, hfirst, Except.map]⟩
  | ok a =>
    have ha : a.base ≤ address := (covers_of_locate hfirst).2.1
    cases hsecond : device.locate other ys.length with
    | error fault =>
      exact ⟨device.written a.base address xs, by simp [locate_written, hsecond, Except.map], by simp [hfirst]⟩
    | ok b =>
      have hb : b.base ≤ other := (covers_of_locate hsecond).2.1
      refine ⟨(device.written a.base address xs).written b.base other ys, ?_, ?_⟩
      · simp [locate_written, hsecond, Except.map]
      · simp [locate_written, hfirst, Except.map, written_comm device ha hb hapart]

/-- A device that was not used yet has no bytes that could have been written. -/
theorem IsNew.tracks {start : HostDevice} (h : start.IsNew) : Tracks [] start := by
  obtain ⟨total, reserved, streamLimit, ordinal, label, rfl⟩ := h
  refine ⟨((Reachable.fresh total 0 streamLimit ordinal label).withReserved reserved).sound, ?_, ?_⟩
  · intro place hplace
    cases hplace
  · intro past hpast
    cases hpast

/-- On a device that was set up, whatever memory calls are made, each copy of at least one byte succeeds exactly
inside one live allocation, each read yields the bytes last written, and each write changes the bytes of its range
and nothing else, so that writes to ranges without a common byte may be swapped. A copy that fails names an invalid
address and changes nothing, and what was taken back is never accessed again. The ranges have to consist of words. -/
theorem history_behaves {start : HostDevice} (hnew : start.IsNew) (calls : List HostCall)
    (hwords : ∀ call ∈ calls, ∀ range ∈ call.range?, range.1 + range.2 < Word.limit) :
    (∀ earlier turn later, start.history calls = earlier ++ turn :: later → Behaves earlier turn) ∧
    ∀ earlier, earlier <+: start.history calls → ∀ address xs other ys,
      RangesApart address xs.length other ys.length →
        ∃ last, ((Turn.reached start earlier).answer (.copyIn address xs)).2.answer (.copyIn other ys) =
            (((Turn.reached start earlier).answer (.copyIn other ys)).1, last) ∧
          ((Turn.reached start earlier).answer (.copyIn other ys)).2.answer (.copyIn address xs) =
            (((Turn.reached start earlier).answer (.copyIn address xs)).1, last) := by
  constructor
  · intro earlier turn later hsplit
    obtain ⟨hbefore, hanswer⟩ := Turn.eq_of_history hsplit
    have htracks : Tracks earlier (Turn.reached start earlier) := by
      refine Turn.history_induction hnew.tracks ?_ ⟨turn :: later, hsplit.symm⟩
      intro past next _ hnext hkept
      exact hkept.step (move hnext)
    rw [← hbefore] at htracks
    have hcall : turn.call ∈ calls := by
      have hin : turn.call ∈ (start.history calls).map Turn.call := by
        rw [hsplit, List.map_append, List.map_cons]
        exact List.mem_append_right _ (List.mem_cons_self ..)
      exact (Turn.map_call_history answer brokeOff start calls).subset hin
    exact htracks.behaves (move hanswer) fun address length hrange => hwords turn.call hcall (address, length) hrange
  · intro earlier _ address xs other ys hapart
    exact answer_copyIn_comm (Turn.reached start earlier) hapart

/-- Accesses inside an allocation, to the gap behind it, and to what was taken back. -/
def arrayCalls : List HostCall :=
  [.allocate 300, .allocate 10, .copyIn 0x10000001 [7, 8], .copyOut 0x10000000 4, .copyOut 0x1000012b 2,
    .free 0x10000000, .allocate 50, .copyOut 0x10000001 1, .copyOut 0x10000300 2]

/-- The bytes that were written are read back, among zeros; nothing is read at the end of an allocation, nor where one
was taken back. -/
theorem history_behaves_arrayCalls :
    thousand.IsNew ∧ (∀ call ∈ arrayCalls, ∀ range ∈ call.range?, range.1 + range.2 < Word.limit) ∧
      (thousand.history arrayCalls).map Turn.reply =
        [.ok (.address 0x10000000), .ok (.address 0x10000200), .ok .done, .ok (.bytes [0, 7, 8, 0]),
          .error (.error (.invalidAddress (.beyond 0x1000012b 2 0x10000000 300))), .ok .done,
          .ok (.address 0x10000300), .error (.error (.invalidAddress (.notAllocated 0x10000001))),
          .ok (.bytes [0, 0])] ∧
      ∀ earlier turn later, thousand.history arrayCalls = earlier ++ turn :: later → Behaves earlier turn := by
  have hnew : thousand.IsNew := ⟨1000, 100, 8, 0, "host-simulated", rfl⟩
  have hwords : ∀ call ∈ arrayCalls, ∀ range ∈ call.range?, range.1 + range.2 < Word.limit := by decide
  exact ⟨hnew, hwords, by decide, (history_behaves hnew arrayCalls hwords).1⟩

end HostDevice
end MemoryPlan
