import MemoryPlan.Device.Host
import MemoryPlan.Proofs.Device.Memory
import MemoryPlan.Proofs.Rounding
/-!
# Host devices

The live allocations of a device lie one behind the other, below the next address, in every reachable state.
Such a device is sound; on a sound device an access inside a live allocation succeeds and does what it says
on the memory, and no operation but a write changes a byte of an allocation that stays live.
-/

namespace MemoryPlan

namespace Allocation

/-- Where the allocation lies. -/
def place (a : Allocation) : TensorPlace := ⟨a.base, a.size⟩

end Allocation

namespace HostDevice

/-- Where the live allocations lie. -/
def extents (device : HostDevice) : List TensorPlace := device.live.map Allocation.place

/-- The bytes of the device: those of the last allocation at or below an address. -/
def memory (device : HostDevice) : Memory := fun x =>
  match device.below? x with
  | none => 0
  | some a => a.byteAt (x - a.place.start)

/-- A place comes before another one; an allocation without bytes still has an address of its own. -/
def Precedes (a b : TensorPlace) : Prop := a.start + max a.size 1 ≤ b.start

/-- The live allocations lie one behind the other, below the next address. -/
structure Sound (device : HostDevice) : Prop where
  /-- Each allocation ends before the next one starts. -/
  apart : device.extents.Pairwise Precedes
  /-- Each allocation ends before the next address. -/
  below : ∀ place ∈ device.extents, place.start + max place.size 1 ≤ device.nextAddress
  /-- The next address is a word. -/
  fits : device.nextAddress < Word.limit

/-- The devices that allocations, frees and writes lead to. -/
inductive Reachable : HostDevice → Prop where
  /-- A device on which nothing was allocated yet. -/
  | fresh (total reserved streamLimit : Nat) (ordinal : Int) (label : String) :
      Reachable { total, ordinal, label, reserved, streamLimit }
  /-- Somebody else uses some bytes. -/
  | withReserved {device : HostDevice} (h : Reachable device) (bytes : Nat) :
      Reachable (device.withReserved bytes)
  /-- An allocation was made. -/
  | allocate {device after : HostDevice} {size address : Nat} (h : Reachable device)
      (hop : device.allocate size = .ok (address, after)) : Reachable after
  /-- An allocation was taken back. -/
  | free {device after : HostDevice} {address : Nat} (h : Reachable device)
      (hop : device.free address = .ok after) : Reachable after
  /-- Bytes were written. -/
  | copyIn {device after : HostDevice} {address : Nat} {data : Bytes} (h : Reachable device)
      (hop : device.copyIn address data = .ok after) : Reachable after

variable {device after : HostDevice} {a : Allocation} {place : TensorPlace} {x : Nat}

/-- The places of the live allocations. -/
theorem mem_extents : place ∈ device.extents ↔ ∃ a ∈ device.live, a.place = place := by
  unfold extents
  exact List.mem_map

theorem Sound.apart_live (hs : device.Sound) :
    device.live.Pairwise fun a b => Precedes a.place b.place :=
  List.pairwise_map.mp hs.apart

/-- Of two live allocations one comes before the other. -/
theorem Sound.precedes_or (hs : device.Sound) {p q : TensorPlace} (hp : p ∈ device.extents) (hq : q ∈ device.extents)
    (hne : p ≠ q) : Precedes p q ∨ Precedes q p := by
  obtain ⟨front, behind, hextents⟩ := List.append_of_mem hq
  have hapart := hs.apart
  rw [hextents, List.pairwise_append, List.pairwise_cons] at hapart
  rw [hextents] at hp
  rcases List.mem_append.mp hp with hin | hin
  · exact Or.inl (hapart.2.2 p hin q (List.mem_cons_self ..))
  · rcases List.mem_cons.mp hin with heq | hin
    · exact absurd heq hne
    · exact Or.inr (hapart.2.1.1 p hin)

/-- Live allocations that start at the same address are the same one. -/
theorem Sound.eq_of_start (hs : device.Sound) {p q : TensorPlace} (hp : p ∈ device.extents) (hq : q ∈ device.extents)
    (hstart : p.start = q.start) : p = q := by
  by_contra hne
  rcases hs.precedes_or hp hq hne with hprecedes | hprecedes
  · have hle : p.start + max p.size 1 ≤ q.start := hprecedes
    omega
  · have hle : q.start + max q.size 1 ≤ p.start := hprecedes
    omega

/-- Every byte of a place lies before the places behind it. -/
theorem Precedes.lt_start {p q : TensorPlace} (h : Precedes p q) (hx : p.Has x) : x < q.start := by
  have hstop : x < p.start + p.size := hx.2
  have hle : p.start + max p.size 1 ≤ q.start := h
  omega

/-- Places that come one behind the other have no byte in common. -/
theorem Precedes.apart {p q : TensorPlace} (h : Precedes p q) : p.Apart q := by
  intro x hp hq
  have hlt := h.lt_start hp
  have hle : q.start ≤ x := hq.1
  omega

/-- The last allocation at or below an address is one at or behind each allocation that starts there. -/
theorem Sound.below?_of_le (hs : device.Sound) (ha : a ∈ device.live) (hle : a.place.start ≤ x) :
    ∃ b, device.below? x = some b ∧ b ∈ device.live ∧ b.place.start ≤ x ∧
      (b = a ∨ a.place.start + max a.size 1 ≤ b.place.start) := by
  obtain ⟨before, behind, hlive⟩ := List.append_of_mem ha
  have hapart := hs.apart_live
  rw [hlive, List.pairwise_append, List.pairwise_cons] at hapart
  obtain ⟨-, ⟨hbehind, -⟩, -⟩ := hapart
  let later := behind.filter fun b => b.base ≤ x
  have hfilter : device.live.filter (fun b => b.base ≤ x) =
      before.filter (fun b => b.base ≤ x) ++ a :: later := by
    have hself : decide (a.base ≤ x) = true := decide_eq_true hle
    rw [hlive, List.filter_append, List.filter_cons, if_pos hself]
  refine ⟨(a :: later).getLast (List.cons_ne_nil _ _), ?_, ?_⟩
  · unfold below?
    rw [hfilter, List.getLast?_append_of_ne_nil _ (List.cons_ne_nil _ _), List.getLast?_eq_some_getLast]
  · rcases List.mem_cons.mp (List.getLast_mem (List.cons_ne_nil a later)) with heq | hlater
    · rw [heq]
      exact ⟨ha, hle, Or.inl rfl⟩
    · obtain ⟨hmem, hstart⟩ := List.mem_filter.mp hlater
      refine ⟨?_, of_decide_eq_true hstart, Or.inr (hbehind _ hmem)⟩
      rw [hlive]
      exact List.mem_append_right _ (List.mem_cons_of_mem _ hmem)

/-- An address of an allocation belongs to it. -/
theorem Sound.below?_eq (hs : device.Sound) (ha : a ∈ device.live) (hx : a.place.Has x) :
    device.below? x = some a := by
  obtain ⟨b, hb, -, hle, rfl | hbehind⟩ := hs.below?_of_le ha hx.1
  · exact hb
  · have hlt : x < a.place.start + a.size := hx.2
    omega

/-- A range of an allocation is located: in the allocation, unless the range has no bytes. -/
theorem Sound.locate_eq (hs : device.Sound) (ha : a ∈ device.live) {length : Nat}
    (hcovers : a.place.Covers x length) :
    ∃ b, device.locate x length = .ok b ∧ b ∈ device.live ∧ b.place.start ≤ x ∧ (0 < length → b = a) := by
  obtain ⟨hle, hstop⟩ := hcovers
  change x + length ≤ a.place.start + a.size at hstop
  obtain ⟨b, hb, hmem, hble, hor⟩ := hs.below?_of_le ha hle
  have hstopb : x - b.place.start + length ≤ b.size := by
    rcases hor with rfl | hbehind <;> omega
  have hbound : b.place.start + max b.size 1 ≤ device.nextAddress :=
    hs.below b.place (List.mem_map_of_mem hmem)
  have hfits : Word.limit > device.nextAddress := hs.fits
  have hadd : Word.add? (x - b.base) length = some (x - b.place.start + length) :=
    Word.add?_eq_some.mpr ⟨by change x - b.place.start + length < _; omega, rfl⟩
  refine ⟨b, ?_, hmem, hble, ?_⟩
  · unfold locate
    rw [hb]
    dsimp only
    rw [hadd]
    dsimp only
    rw [if_neg (Nat.not_lt.mpr hstopb)]
  · intro hpos
    rcases hor with rfl | hbehind
    · rfl
    · omega

/-- The allocation that is found for an address is live and starts at or below it. -/
theorem mem_of_below? (h : device.below? x = some a) : a ∈ device.live ∧ a.place.start ≤ x := by
  unfold below? at h
  have hmem := List.mem_of_getLast? h
  have hfilter := List.mem_filter.mp hmem
  exact ⟨hfilter.1, of_decide_eq_true hfilter.2⟩

/-- A read inside an allocation yields the bytes of the memory. -/
theorem Sound.copyOut_eq (hs : device.Sound) (hplace : place ∈ device.extents) {length : Nat}
    (hcovers : place.Covers x length) : device.copyOut x length = .ok (device.memory.bytes x length) := by
  obtain ⟨a, ha, rfl⟩ := mem_extents.mp hplace
  obtain ⟨b, hlocate, hb, hle, hsame⟩ := hs.locate_eq ha hcovers
  unfold copyOut
  rw [hlocate]
  refine congrArg Except.ok ?_
  apply List.ext_getElem
  · simp
  · intro i hi hi'
    have hlt : i < length := by simpa using hi
    obtain rfl := hsame (by omega)
    have hbelow : device.below? (x + i) = some b := by
      refine hs.below?_eq ha ⟨by omega, ?_⟩
      have hstop := hcovers.2
      omega
    rw [List.getElem_eq_getD 0, Allocation.getD_read _ hlt]
    simp only [Memory.bytes, List.getElem_map, List.getElem_range, memory, hbelow]
    rw [show x + i - b.place.start = x - b.place.start + i by omega]
    rfl

/-- What a write to the allocation of that base does to an allocation. -/
def writeAt (base x : Nat) (data : Bytes) (a : Allocation) : Allocation :=
  if a.base = base then a.write (x - a.base) data else a

/-- A write leaves the bytes outside of its range. -/
theorem byteAt_writeAt_of_outside {base y : Nat} {data : Bytes} (hbase : base ≤ x) (hy : a.place.start ≤ y)
    (h : y < x ∨ x + data.length ≤ y) :
    (writeAt base x data a).byteAt (y - a.place.start) = a.byteAt (y - a.place.start) := by
  unfold writeAt
  split
  · next heq =>
    have hstart : a.place.start = base := heq
    rw [Allocation.byteAt_write, if_neg]
    change ¬(x - a.place.start ≤ y - a.place.start ∧ y - a.place.start < x - a.place.start + data.length)
    omega
  · rfl

/-- A write puts its data at its range. -/
theorem byteAt_writeAt_self {y : Nat} {data : Bytes} (hle : a.place.start ≤ x)
    (h : x ≤ y ∧ y < x + data.length) :
    (writeAt a.place.start x data a).byteAt (y - a.place.start) = data.getD (y - x) 0 := by
  have hin : x - a.place.start ≤ y - a.place.start ∧
      y - a.place.start < x - a.place.start + data.length := by omega
  have hsub : y - a.place.start - (x - a.place.start) = y - x := by omega
  unfold writeAt
  have hself : a.base = a.place.start := rfl
  rw [if_pos hself, Allocation.byteAt_write]
  change (if x - a.place.start ≤ y - a.place.start ∧ y - a.place.start < x - a.place.start + data.length then
    data.getD (y - a.place.start - (x - a.place.start)) 0 else _) = _
  rw [if_pos hin, hsub]

/-- A write moves no allocation. -/
theorem place_writeAt (base x : Nat) (data : Bytes) (a : Allocation) :
    (writeAt base x data a).place = a.place := by
  unfold writeAt
  split <;> rfl

/-- Behind a write the same allocations are found, with what was written. -/
theorem below?_writeAt {base : Nat} {data : Bytes} (y : Nat)
    (hlive : after.live = device.live.map (writeAt base x data)) :
    after.below? y = (device.below? y).map (writeAt base x data) := by
  have hfilter : (fun a => decide (a.base ≤ y)) ∘ writeAt base x data = fun a => decide (a.base ≤ y) := by
    funext a
    have hplace := congrArg TensorPlace.start (place_writeAt base x data a)
    change decide ((writeAt base x data a).place.start ≤ y) = decide (a.place.start ≤ y)
    rw [hplace]
  unfold below?
  rw [hlive, List.filter_map, hfilter, List.getLast?_map]

/-- A successful write keeps the allocations where they are. -/
theorem extents_copyIn {address : Nat} {data : Bytes} (hop : device.copyIn address data = .ok after) :
    after.extents = device.extents ∧ after.nextAddress = device.nextAddress := by
  constructor
  · obtain ⟨target, -, hlive⟩ := live_copyIn hop
    unfold extents
    rw [hlive, List.map_map]
    apply List.map_congr_left
    intro c _
    exact place_writeAt target.base address data c
  · obtain ⟨_, _, rfl⟩ := frame_copyIn hop
    rfl

/-- A write inside an allocation succeeds and changes the memory in its range only; the allocations stay
where they are. -/
theorem Sound.copyIn_eq (hs : device.Sound) (hplace : place ∈ device.extents) {data : Bytes}
    (hcovers : place.Covers x data.length) :
    ∃ after, device.copyIn x data = .ok after ∧ after.memory = device.memory.write x data ∧
      after.extents = device.extents ∧ after.nextAddress = device.nextAddress := by
  obtain ⟨a, ha, rfl⟩ := mem_extents.mp hplace
  obtain ⟨b, hlocate, hb, hle, hsame⟩ := hs.locate_eq ha hcovers
  obtain ⟨after, hafter⟩ : ∃ after, device.copyIn x data = .ok after := by
    unfold copyIn
    rw [hlocate]
    exact ⟨_, rfl⟩
  obtain ⟨hextents, hnext⟩ := extents_copyIn hafter
  have hlive : after.live = device.live.map (writeAt b.place.start x data) := by
    obtain ⟨target, htarget, hmap⟩ := live_copyIn hafter
    rw [hlocate] at htarget
    obtain rfl := Except.ok.inj htarget
    exact hmap
  refine ⟨after, hafter, ?_, hextents, hnext⟩
  · funext y
    by_cases hin : x ≤ y ∧ y < x + data.length
    · obtain rfl := hsame (by omega)
      have hstop := hcovers.2
      have hbelow : device.below? y = some b := hs.below?_eq ha ⟨by omega, by omega⟩
      unfold memory
      rw [below?_writeAt y hlive, hbelow]
      simp only [Option.map_some, place_writeAt, Memory.write, if_pos hin]
      exact byteAt_writeAt_self hle hin
    · rw [Memory.write_outside (by omega)]
      unfold memory
      rw [below?_writeAt y hlive]
      cases hbelow : device.below? y with
      | none => rfl
      | some c =>
        simp only [Option.map_some, place_writeAt]
        exact byteAt_writeAt_of_outside hle (mem_of_below? hbelow).2 (by omega)

/-- A range that is located lies in a live allocation. -/
theorem covers_of_locate {length : Nat} (h : device.locate x length = .ok a) :
    a ∈ device.live ∧ a.place.Covers x length := by
  unfold locate at h
  split at h
  · cases h
  · next b hbelow =>
    have hb := mem_of_below? hbelow
    split at h
    · cases h
    · next stop hstop =>
      have hsum : stop = x - b.place.start + length := (Word.add?_eq_some.mp hstop).2
      split at h
      · cases h
      · next hsize =>
        obtain rfl := Except.ok.inj h
        have hle := hb.2
        refine ⟨hb.1, hle, ?_⟩
        change x + length ≤ b.place.start + b.size
        omega

/-- A write that succeeds changes the memory in its range only. -/
theorem Sound.memory_copyIn (hs : device.Sound) {data : Bytes} (hop : device.copyIn x data = .ok after) :
    after.memory = device.memory.write x data := by
  obtain ⟨target, hlocate, -⟩ := live_copyIn hop
  have htarget := covers_of_locate hlocate
  have hplace : target.place ∈ device.extents := mem_extents.mpr ⟨target, htarget.1, rfl⟩
  obtain ⟨other, hother, hmemory, -⟩ := hs.copyIn_eq hplace htarget.2
  rw [hop] at hother
  rw [Except.ok.inj hother]
  exact hmemory

/-- The byte at an address of a live allocation. -/
theorem Sound.memory_eq (hs : device.Sound) (ha : a ∈ device.live) (hx : a.place.Has x) :
    device.memory x = a.byteAt (x - a.place.start) := by
  unfold memory
  rw [hs.below?_eq ha hx]

/-- An allocation that succeeds fits into the free bytes and is counted, and the next address is the multiple of the
address step at or above its end. -/
theorem allocate_eq_ok {size address : Nat} (hop : device.allocate size = .ok (address, after)) :
    size ≤ device.freeBytes ∧ after.stats = device.stats.allocated size ∧ after.total = device.total ∧
      after.reserved = device.reserved ∧ device.nextAddress + max size 1 + addressStep < Word.limit ∧
      after.nextAddress = (device.nextAddress + max size 1 + (addressStep - 1)) / addressStep * addressStep := by
  unfold HostDevice.allocate at hop
  split at hop
  · cases hop
  · next hfits =>
    split at hop
    · cases hop
    · next next hnext =>
      obtain ⟨hword, hup⟩ := Word.alignUpChecked?_eq_some.mp hnext
      rw [Word.alignUp_eq (by decide) (Nat.lt_of_le_of_lt (Nat.add_le_add_left (Nat.sub_le _ 1) _) hword)] at hup
      cases hop
      exact ⟨Nat.le_of_not_lt hfits, rfl, rfl, rfl, hword, hup⟩

/-- An allocation fails because it does not fit, or else is broken off where the addresses end. -/
theorem allocate_eq_error {size : Nat} {halt : Halt DeviceFault} (hop : device.allocate size = .error halt) :
    device.freeBytes < size ∧ halt = .error (.allocationFailed (.outOfMemory size device.freeBytes)) ∨
      size ≤ device.freeBytes ∧ halt = .crash addressOverflow ∧
        Word.limit ≤ device.nextAddress + max size 1 + addressStep := by
  unfold HostDevice.allocate at hop
  split at hop
  · next hlt => exact Or.inl ⟨hlt, (Except.error.inj hop).symm⟩
  · next hfits =>
    split at hop
    · next hnone =>
      exact Or.inr ⟨Nat.le_of_not_lt hfits, (Except.error.inj hop).symm, Word.alignUpChecked?_eq_none.mp hnone⟩
    · cases hop

/-- The next address moves behind the allocation, to a word. -/
theorem nextAddress_allocate {size address : Nat} (hop : device.allocate size = .ok (address, after)) :
    address + max size 1 ≤ after.nextAddress ∧ after.nextAddress < Word.limit := by
  obtain ⟨-, -, -, -, hword, hnext⟩ := allocate_eq_ok hop
  rw [(live_allocate hop).1, hnext]
  unfold addressStep at hword ⊢
  simp only [Address] at *
  omega

/-- An allocation lies at the next address, behind all others, whose bytes stay. -/
theorem Sound.allocate (hs : device.Sound) {size address : Nat}
    (hop : device.allocate size = .ok (address, after)) :
    after.Sound ∧ after.extents = device.extents ++ [⟨address, size⟩] ∧
      (∀ place ∈ device.extents, Precedes place ⟨address, size⟩) ∧
      ∀ x < address, after.memory x = device.memory x := by
  obtain ⟨haddress, hlive⟩ := live_allocate hop
  have hextents : after.extents = device.extents ++ [⟨address, size⟩] := by
    unfold extents
    rw [hlive, List.map_append, haddress]
    rfl
  have hbehind : ∀ place ∈ device.extents, Precedes place ⟨address, size⟩ := by
    intro place hplace
    rw [haddress]
    exact hs.below place hplace
  have hnext := nextAddress_allocate hop
  refine ⟨⟨?_, ?_, hnext.2⟩, hextents, hbehind, ?_⟩
  · rw [hextents]
    refine List.pairwise_append.mpr ⟨hs.apart, List.pairwise_singleton _ _, ?_⟩
    intro p hp q hq
    rw [List.mem_singleton.mp hq]
    exact hbehind p hp
  · intro place hplace
    rw [hextents] at hplace
    rcases List.mem_append.mp hplace with hold | hnew
    · have hprecedes := hbehind place hold
      change place.start + max place.size 1 ≤ address at hprecedes
      omega
    · rw [List.mem_singleton.mp hnew]
      exact hnext.1
  · intro x hx
    have hdrop : [(⟨device.nextAddress, size, []⟩ : Allocation)].filter (fun b => b.base ≤ x) = [] := by
      apply List.filter_eq_nil_iff.mpr
      intro b hb
      rw [List.mem_singleton.mp hb, ← haddress]
      exact fun h => Nat.not_le.mpr hx (of_decide_eq_true h)
    have hbelow : after.below? x = device.below? x := by
      unfold below?
      rw [hlive, List.filter_append, hdrop, List.append_nil]
    unfold memory
    rw [hbelow]

/-- A new allocation has zeros. -/
theorem Sound.memory_allocate (hs : device.Sound) {size address : Nat}
    (hop : device.allocate size = .ok (address, after)) (hx : TensorPlace.Has ⟨address, size⟩ x) :
    after.memory x = 0 := by
  obtain ⟨haddress, hlive⟩ := live_allocate hop
  have hmade : (⟨device.nextAddress, size, []⟩ : Allocation) ∈ after.live := by
    rw [hlive]
    exact List.mem_append_right _ (List.mem_singleton_self _)
  rw [haddress] at hx
  rw [(hs.allocate hop).1.memory_eq hmade hx]
  rfl

/-- Taking an allocation back leaves some of those that were live, and the next address. -/
theorem free_keeps {address : Nat} (hop : device.free address = .ok after) :
    after.live.Sublist device.live ∧ after.nextAddress = device.nextAddress := by
  constructor
  · rw [(live_free hop).2]
    exact List.eraseP_sublist
  · unfold HostDevice.free at hop
    split at hop
    · cases hop
    · obtain rfl := Except.ok.inj hop
      rfl

/-- Taking an allocation back keeps the others where they are, with their bytes. -/
theorem Sound.free (hs : device.Sound) {address : Nat} (hop : device.free address = .ok after) :
    after.Sound ∧ (∀ place ∈ device.extents, place.start ≠ address → place ∈ after.extents) ∧
      ∀ place ∈ after.extents, ∀ x, place.Has x → after.memory x = device.memory x := by
  obtain ⟨-, hlive⟩ := live_free hop
  obtain ⟨hsub, hnext⟩ := free_keeps hop
  have hsound : after.Sound := by
    refine ⟨hs.apart.sublist (hsub.map _), ?_, ?_⟩
    · intro place hplace
      rw [hnext]
      exact hs.below place ((hsub.map _).subset hplace)
    · rw [hnext]
      exact hs.fits
  refine ⟨hsound, ?_, ?_⟩
  · intro place hplace hne
    obtain ⟨a, ha, rfl⟩ := mem_extents.mp hplace
    refine mem_extents.mpr ⟨a, ?_, rfl⟩
    rw [hlive]
    refine (List.mem_eraseP_of_neg ?_).mpr ha
    intro h
    exact hne (of_decide_eq_true h)
  · intro place hplace x hx
    obtain ⟨a, ha, rfl⟩ := mem_extents.mp hplace
    rw [hsound.memory_eq ha hx, hs.memory_eq (hsub.subset ha) hx]

/-- A device with the same places and the same next address is sound as well. -/
theorem Sound.of_extents (hs : device.Sound) (hextents : after.extents = device.extents)
    (hnext : after.nextAddress = device.nextAddress) : after.Sound := by
  refine ⟨?_, ?_, ?_⟩
  · rw [hextents]
    exact hs.apart
  · rw [hextents, hnext]
    exact hs.below
  · rw [hnext]
    exact hs.fits

/-- The allocations of one device lie where those of another one lie. -/
def Alike (a b : HostDevice) : Prop := a.extents = b.extents ∧ a.nextAddress = b.nextAddress

theorem Alike.refl (a : HostDevice) : a.Alike a := ⟨rfl, rfl⟩

theorem Alike.trans {a b c : HostDevice} (hab : a.Alike b) (hbc : b.Alike c) : a.Alike c :=
  ⟨hab.1.trans hbc.1, hab.2.trans hbc.2⟩

/-- A device whose allocations lie as those of a sound one is sound. -/
theorem Alike.sound {a b : HostDevice} (h : a.Alike b) (hs : b.Sound) : a.Sound := hs.of_extents h.1 h.2

/-- A device after some allocations: the bytes of what was live before stay. -/
structure Grown (before after : HostDevice) (made : List TensorPlace) : Prop where
  /-- The device is sound. -/
  sound : after.Sound
  /-- The new allocations lie behind the others. -/
  extents : after.extents = before.extents ++ made
  /-- No byte of another allocation changes. -/
  memory : ∀ place ∈ before.extents, ∀ x, place.Has x → after.memory x = before.memory x

theorem Grown.refl (hs : device.Sound) : Grown device device [] :=
  ⟨hs, (List.append_nil _).symm, fun _ _ _ _ => rfl⟩

/-- What was gained in two steps was gained, one behind the other. -/
theorem Grown.trans {a b c : HostDevice} {made more : List TensorPlace} (hab : Grown a b made)
    (hbc : Grown b c more) : Grown a c (made ++ more) := by
  refine ⟨hbc.sound, ?_, ?_⟩
  · rw [hbc.extents, hab.extents, List.append_assoc]
  · intro place hplace x hx
    have hmem : place ∈ b.extents := by
      rw [hab.extents]
      exact List.mem_append_left made hplace
    rw [hbc.memory place hmem x hx, hab.memory place hplace x hx]

/-- Every new allocation lies behind what was live before. -/
theorem Grown.lt_start {before : HostDevice} {made : List TensorPlace} (h : Grown before after made)
    {p q : TensorPlace} (hp : p ∈ before.extents) (hq : q ∈ made) (hx : p.Has x) : x < q.start := by
  have hapart := h.sound.apart
  rw [h.extents, List.pairwise_append] at hapart
  exact (hapart.2.2 p hp q hq).lt_start hx

/-- Every device that can come about is sound. -/
theorem Reachable.sound (h : device.Reachable) : device.Sound := by
  induction h with
  | fresh total reserved streamLimit ordinal label =>
    refine ⟨List.Pairwise.nil, ?_, ?_⟩
    · intro place hplace
      cases hplace
    · change 0x10000000 < Word.limit
      decide
  | withReserved h bytes ih => exact ih.of_extents rfl rfl
  | allocate h hop ih => exact (ih.allocate hop).1
  | free h hop ih => exact (ih.free hop).1
  | copyIn h hop ih =>
    obtain ⟨hextents, hnext⟩ := extents_copyIn hop
    exact ih.of_extents hextents hnext

end HostDevice
end MemoryPlan
