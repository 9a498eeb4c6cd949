import Mathlib.Algebra.BigOperators.Group.List.Basic
import MemoryPlan.Proofs.Contract
import MemoryPlan.Proofs.Pool
/-!
# Gained memory

An allocation that fits into the free bytes of a host device succeeds, unless the address range is used up.
What a device gained by allocations and writes into them lies behind what was live before, which is as it was;
taking the gained allocations back leads to the live allocations and the live bytes before.
-/

namespace MemoryPlan

namespace HostDevice

variable {before device after : HostDevice} {made : List TensorPlace} {place : TensorPlace} {size : Nat}
  {address : Address}

/-- The next address moves by at most the size and one address step. -/
theorem nextAddress_allocate_le (hop : device.allocate size = .ok (address, after)) :
    after.nextAddress ≤ device.nextAddress + size + addressStep := by
  obtain ⟨-, -, -, -, -, hnext⟩ := allocate_eq_ok hop
  rw [hnext]
  unfold addressStep
  simp only [Address] at *
  omega

/-- What a write does beside the live allocations. -/
theorem counts_copyIn {data : Bytes} (hop : device.copyIn address data = .ok after) :
    after.stats = device.stats ∧ after.total = device.total ∧ after.reserved = device.reserved := by
  obtain ⟨_, _, rfl⟩ := frame_copyIn hop
  exact ⟨rfl, rfl, rfl⟩

/-- The bytes of several places. -/
def bytesOf (places : List TensorPlace) : Nat := (places.map TensorPlace.size).sum

/-- The device gained those allocations and kept what was live before, with its bytes. -/
structure Gained (before after : HostDevice) (made : List TensorPlace) : Prop where
  /-- The device is sound. -/
  sound : after.Sound
  /-- The gained allocations lie behind those that were live before. -/
  live : ∃ fresh, after.live = before.live ++ fresh ∧ fresh.map Allocation.place = made
  /-- Their bytes are counted. -/
  liveBytes : after.stats.liveBytes = before.stats.liveBytes + bytesOf made
  /-- The device has as many bytes as before. -/
  total : after.total = before.total
  /-- Somebody else uses as many bytes as before. -/
  reserved : after.reserved = before.reserved

namespace Gained

theorem refl (hs : device.Sound) : Gained device device [] :=
  ⟨hs, ⟨[], (List.append_nil _).symm, rfl⟩, rfl, rfl, rfl⟩

/-- What was gained is no longer free. -/
theorem freeBytes (h : Gained before device made) :
    device.freeBytes = before.freeBytes - bytesOf made := by
  unfold HostDevice.freeBytes
  rw [h.total, h.reserved, h.liveBytes, Nat.sub_add_eq]

/-- An allocation is gained behind the others. -/
theorem allocate (h : Gained before device made) (hop : device.allocate size = .ok (address, after)) :
    Gained before after (made ++ [⟨address, size⟩]) := by
  obtain ⟨rfl, hlive⟩ := live_allocate hop
  obtain ⟨-, hstats, htotal, hreserved, -⟩ := allocate_eq_ok hop
  have hbytes : after.stats.liveBytes = device.stats.liveBytes + size := by
    rw [hstats]
    rfl
  obtain ⟨fresh, hfresh, hplaces⟩ := h.live
  refine ⟨(h.sound.allocate hop).1, ⟨fresh ++ [⟨device.nextAddress, size, []⟩], ?_, ?_⟩, ?_, ?_, ?_⟩
  · rw [hlive, hfresh, List.append_assoc]
  · rw [List.map_append, hplaces]
    rfl
  · rw [hbytes, h.liveBytes]
    simp [bytesOf, Nat.add_assoc]
  · rw [htotal, h.total]
  · rw [hreserved, h.reserved]

/-- What was live before starts elsewhere than what was gained. -/
theorem base_ne (h : Gained before device made) {fresh : List Allocation}
    (hfresh : device.live = before.live ++ fresh) {old new : Allocation} (hold : old ∈ before.live)
    (hnew : new ∈ fresh) : old.base ≠ new.base := by
  have hapart := h.sound.apart_live
  rw [hfresh, List.pairwise_append] at hapart
  have hprecedes : old.base + max old.size 1 ≤ new.base := hapart.2.2 old hold new hnew
  simp only [Address] at *
  omega

/-- Bytes can be written into what was gained, and change nothing else. -/
theorem copyIn (h : Gained before device made) (hplace : place ∈ made) {x : Nat} {data : Bytes}
    (hcovers : place.Covers x data.length) (hpos : 0 < data.length) :
    ∃ after, device.copyIn x data = .ok after ∧ Gained before after made ∧
      after.nextAddress = device.nextAddress := by
  obtain ⟨fresh, hfresh, rfl⟩ := h.live
  obtain ⟨a, ha, rfl⟩ := List.mem_map.mp hplace
  have hlive : a ∈ device.live := by
    rw [hfresh]
    exact List.mem_append_right _ ha
  obtain ⟨b, hlocate, -, -, hsame⟩ := h.sound.locate_eq hlive hcovers
  -- a write of at least one byte is located in the allocation itself
  obtain rfl := hsame hpos
  obtain ⟨after, hafter, -, hextents, hnext⟩ :=
    h.sound.copyIn_eq (mem_extents.mpr ⟨b, hlive, rfl⟩) hcovers
  obtain ⟨target, htarget, hmap⟩ := live_copyIn hafter
  rw [hlocate] at htarget
  obtain rfl := Except.ok.inj htarget
  obtain ⟨hstats, htotal, hreserved⟩ := counts_copyIn hafter
  have hkept : before.live.map (writeAt b.base x data) = before.live := by
    have hid : before.live.map (writeAt b.base x data) = before.live.map id :=
      List.map_congr_left fun old hold => if_neg (h.base_ne hfresh hold ha)
    rw [hid, List.map_id]
  refine ⟨after, hafter, ⟨h.sound.of_extents hextents hnext, ⟨fresh.map (writeAt b.base x data), ?_, ?_⟩,
    ?_, ?_, ?_⟩, hnext⟩
  · have hall : after.live = device.live.map (writeAt b.base x data) := hmap
    rw [hall, hfresh, List.map_append, hkept]
  · rw [List.map_map]
    exact List.map_congr_left fun c _ => place_writeAt b.base x data c
  · rw [hstats, h.liveBytes]
  · rw [htotal, h.total]
  · rw [hreserved, h.reserved]

/-- The first gained allocation can be taken back. -/
theorem free (h : Gained before device (place :: made)) :
    ∃ after, device.free place.start = .ok after ∧ Gained before after made := by
  obtain ⟨fresh, hfresh, hplaces⟩ := h.live
  obtain ⟨a, others, rfl, rfl, rfl⟩ := List.map_eq_cons_iff.mp hplaces
  -- neither the search nor the removal stops at what was live before
  have hbefore : ∀ old ∈ before.live, ¬decide (old.base = a.place.start) = true := by
    intro old hold heq
    exact h.base_ne hfresh hold (List.mem_cons_self ..) (of_decide_eq_true heq)
  have hself : decide (a.base = a.place.start) = true := decide_eq_true rfl
  have hfound : device.allocationAt? a.place.start = some a := by
    unfold allocationAt?
    rw [hfresh, List.find?_append, List.find?_eq_none.mpr hbefore, Option.none_or, List.find?_cons, hself]
  obtain ⟨after, hafter⟩ : ∃ after, device.free a.place.start = .ok after := by
    unfold HostDevice.free
    rw [hfound]
    exact ⟨_, rfl⟩
  have hcounts : after.stats = device.stats.freed a.size ∧ after.total = device.total ∧
      after.reserved = device.reserved := by
    unfold HostDevice.free at hafter
    rw [hfound] at hafter
    obtain rfl := Except.ok.inj hafter
    exact ⟨rfl, rfl, rfl⟩
  obtain ⟨hstats, htotal, hreserved⟩ := hcounts
  refine ⟨after, hafter, (h.sound.free hafter).1, ⟨others, ?_, rfl⟩, ?_, ?_, ?_⟩
  · rw [(live_free hafter).2, hfresh, List.eraseP_append_right _ hbefore]
    exact congrArg (before.live ++ ·) (List.eraseP_cons_of_pos hself)
  · rw [hstats]
    change device.stats.liveBytes - a.size = _
    rw [h.liveBytes]
    change before.stats.liveBytes + (a.size + bytesOf (others.map Allocation.place)) - a.size = _
    omega
  · rw [htotal, h.total]
  · rw [hreserved, h.reserved]

end Gained
variable {ε α : Type} {outcome : Except ε (α × HostDevice)}

/-- An operation settles with a value if it yields the value and the device. -/
theorem settle_eq_ok {a : α} : settle device outcome = (.ok a, after) ↔ outcome = .ok (a, after) := by
  cases outcome with
  | ok made => simp [settle, Prod.ext_iff]
  | error fault => simp [settle]

/-- An operation settles with a fault if it fails with it, and then the device stays. -/
theorem settle_eq_error {fault : ε} :
    settle device outcome = (.error fault, after) ↔ outcome = .error fault ∧ device = after := by
  cases outcome with
  | ok made => simp [settle]
  | error fault => simp [settle]

end HostDevice

/-- The computation crashed, and no address from that one on is a word. -/
def Overflows {ε : Type} (reach : Nat) (halt : Halt ε) : Prop :=
  (∃ reason, halt = .crash reason) ∧ Word.limit ≤ reach

theorem Overflows.mono {ε : Type} {reach further : Nat} {halt : Halt ε} (h : Overflows reach halt)
    (hle : reach ≤ further) : Overflows further halt := ⟨h.1, Nat.le_trans h.2 hle⟩

/-- Other words for a fault leave a crash as it is. -/
theorem Overflows.map {ε φ : Type} {reach : Nat} {halt : Halt ε} (h : Overflows reach halt) (f : ε → φ) :
    Overflows reach (halt.map f) := by
  obtain ⟨⟨reason, rfl⟩, hlimit⟩ := h
  exact ⟨⟨reason, rfl⟩, hlimit⟩

open HostDevice

variable {before : HostDevice} {made : List TensorPlace} {site : Site HostDevice}

namespace DeviceBuffer

variable {buffer : DeviceBuffer}

/-- A buffer that fits into the free bytes is gained. -/
theorem create_gains {size : Nat} (h : Gained before site.device made) (hpos : 0 < size)
    (hfits : bytesOf made + size ≤ before.freeBytes) :
    (create size).Ensures
      (fun buffer after => buffer.size = size ∧ Gained before after.device (made ++ [buffer.place]) ∧
        after.device.nextAddress ≤ site.device.nextAddress + size + addressStep)
      (fun halt _ => Overflows (site.device.nextAddress + size + addressStep) halt) site := by
  have hroom : size ≤ site.device.freeBytes := by
    rw [h.freeBytes]
    omega
  unfold create
  rw [if_neg (Nat.ne_of_gt hpos)]
  apply Act.ensures_bind
  apply Act.ensures_call
  · intro address device hop
    have hallocate := settle_eq_ok.mp hop
    apply Act.ensures_bind
    apply Act.ensures_note
    apply Act.ensures_pure
    exact ⟨rfl, h.allocate hallocate, nextAddress_allocate_le hallocate⟩
  · intro halt device hop
    obtain ⟨hallocate, -⟩ := settle_eq_error.mp hop
    obtain ⟨hlt, -⟩ | ⟨-, rfl, hlimit⟩ := allocate_eq_error hallocate
    · exact absurd hroom (Nat.not_le.mpr hlt)
    · refine ⟨⟨_, rfl⟩, ?_⟩
      unfold addressStep at hlimit ⊢
      simp only [Address] at *
      omega

/-- Bytes can be written into a gained buffer. -/
theorem copyIn_gains {offset : Nat} {data : Bytes} (h : Gained before site.device made)
    (hplace : buffer.place ∈ made) (hinside : offset + data.length ≤ buffer.size) (hpos : 0 < data.length) :
    (buffer.copyIn offset data).Ensures
      (fun _ after => Gained before after.device made ∧
        after.device.nextAddress = site.device.nextAddress)
      (fun _ _ => False) site := by
  obtain ⟨fresh, hfresh, rfl⟩ := h.live
  have hextent : buffer.place ∈ site.device.extents := by
    unfold extents
    rw [hfresh, List.map_append]
    exact List.mem_append_right _ hplace
  have hword : offset + data.length < Word.limit := by
    have hbelow : buffer.address + max buffer.size 1 ≤ site.device.nextAddress :=
      h.sound.below buffer.place hextent
    have hfits : Word.limit > site.device.nextAddress := h.sound.fits
    simp only [Address] at *
    omega
  have hcheck : buffer.checkRange offset data.length = .ok () := by
    unfold checkRange
    rw [Word.add?_eq_some.mpr ⟨hword, rfl⟩]
    dsimp only
    rw [if_pos hinside]
  obtain ⟨after, hafter, hgained, hnext⟩ := h.copyIn hplace (covers_of_checkRange hcheck) hpos
  have hop : Device.copyIn site.device (buffer.address + offset) data = (.ok (), after) := by
    change settle site.device ((site.device.copyIn (buffer.address + offset) data).map _) = _
    rw [hafter]
    rfl
  unfold copyIn
  rw [hcheck]
  apply Act.ensures_bind
  apply Act.ensures_pure (a := ())
  apply Act.ensures_call
  · intro _ device hcall
    rw [hop] at hcall
    obtain ⟨-, rfl⟩ := Prod.mk.inj hcall
    exact ⟨hgained, hnext⟩
  · intro halt device hcall
    rw [hop] at hcall
    cases hcall

/-- A gained buffer can be released. -/
theorem release_gained (h : Gained before site.device (buffer.place :: made)) :
    Gained before (buffer.release site).device made := by
  obtain ⟨after, hafter, hgained⟩ := h.free
  have hop : Device.free site.device buffer.address = (.ok (), after) := by
    change settle site.device ((site.device.free buffer.place.start).map _) = _
    rw [hafter]
    rfl
  unfold release
  rw [hop]
  exact hgained

/-- Buffers that are all released give back all that was gained for them. -/
theorem releaseAll_gained {buffers : List DeviceBuffer}
    (h : Gained before site.device (buffers.map DeviceBuffer.place)) :
    Gained before (releaseAll buffers site).device [] := by
  induction buffers generalizing site with
  | nil => exact h
  | cons buffer rest ih => exact ih (release_gained h)

end DeviceBuffer

namespace ConstantBlock

variable {block : ConstantBlock}

/-- Constants can be written into a gained buffer that is large enough. -/
theorem uploadAll_gains {buffer : DeviceBuffer} {layout : Layout} {constants : List Constant}
    (hoffsets : ∀ c ∈ constants, layout.offset? c.id = some c.offset)
    (h : Gained before site.device made) (hplace : buffer.place ∈ made)
    (hinside : ∀ c ∈ constants, c.stop ≤ buffer.size) :
    (uploadAll buffer layout constants).Ensures
      (fun _ after => Gained before after.device made ∧
        after.device.nextAddress = site.device.nextAddress)
      (fun _ _ => False) site := by
  induction constants generalizing site with
  | nil => exact ⟨h, rfl⟩
  | cons c rest ih =>
    obtain ⟨hstop, hrest⟩ := List.forall_mem_cons.mp hinside
    obtain ⟨hoffset, hrestOffsets⟩ := List.forall_mem_cons.mp hoffsets
    unfold uploadAll
    split
    · exact ih hrestOffsets h hrest
    · next hsome =>
      have hpos : 0 < c.data.length := List.length_pos_iff.mpr fun hnil => hsome (by simp [hnil])
      rw [hoffset]
      apply Act.ensures_bind
      apply Act.ensures_mapError
      refine (DeviceBuffer.copyIn_gains h hplace hstop hpos).mono ?_ fun _ _ hfalse => hfalse
      intro _ between hbetween
      refine (ih hrestOffsets hbetween.1 hrest).mono ?_ fun _ _ hfalse => hfalse
      intro _ after hafter
      exact ⟨hafter.1, hafter.2.trans hbetween.2⟩

/-- The block of a set that fits into the free bytes is gained, unless it has no bytes. -/
theorem upload_gains {set : ConstantSet} (hp : set.Packed) (h : Gained before site.device made)
    (hfits : bytesOf made + set.size ≤ before.freeBytes) :
    (upload set).Ensures
      (fun block after => block.layout = set.layout ∧
        block.places.map TensorPlace.size = (if 0 < set.size then [set.size] else []) ∧
        Gained before after.device (made ++ block.places) ∧
        after.device.nextAddress ≤ site.device.nextAddress + set.size + addressStep)
      (fun halt _ => Overflows (site.device.nextAddress + set.size + addressStep) halt) site := by
  unfold upload
  split
  · next hzero =>
    apply Act.ensures_bind
    apply Act.ensures_note
    apply Act.ensures_pure
    refine ⟨rfl, ?_, ?_, ?_⟩
    · rw [hzero]
      rfl
    · change Gained before site.device (made ++ [])
      rw [List.append_nil]
      exact h
    · change site.device.nextAddress ≤ _
      rw [Nat.add_assoc]
      exact Nat.le_add_right _ _
  · next hsome =>
    have hpos : 0 < set.size := Nat.pos_of_ne_zero hsome
    apply Act.ensures_bind
    apply Act.ensures_mapError
    refine (DeviceBuffer.create_gains h hpos hfits).mono ?_ fun _ _ hover => hover.map _
    rintro buffer created ⟨hsize, hgained, hnext⟩
    have hplace : buffer.place ∈ made ++ [buffer.place] :=
      List.mem_append_right _ (List.mem_singleton_self _)
    have hinside : ∀ c ∈ set.constants, c.stop ≤ buffer.size := by
      rw [hsize]
      exact hp.inside
    apply Act.ensures_bind
    apply Act.ensures_orUndo
    refine (uploadAll_gains hp.offset?_eq_some hgained hplace hinside).mono ?_ fun _ _ hfalse => hfalse.elim
    rintro _ filled ⟨hfilled, hsame⟩
    apply Act.ensures_bind
    apply Act.ensures_note
    apply Act.ensures_pure
    refine ⟨rfl, ?_, hfilled, ?_⟩
    · rw [if_pos hpos, ← hsize]
      rfl
    · change filled.device.nextAddress ≤ _
      rw [hsame]
      exact hnext

/-- A block that is released gives back what was gained for it. -/
theorem release_gained (h : Gained before site.device (block.places ++ made)) :
    Gained before (block.release site).device made := by
  unfold places at h
  unfold release
  cases hbuffer : block.buffer with
  | none =>
    rw [hbuffer] at h
    exact h
  | some buffer =>
    rw [hbuffer] at h
    exact DeviceBuffer.release_gained h

end ConstantBlock

namespace RegionPool

/-- Regions that fit into the free bytes together are gained. -/
theorem createRegions_gains {size count : Nat} {earlier : List DeviceBuffer}
    (h : Gained before site.device made) (hpos : 0 < size)
    (hfits : bytesOf made + count * size ≤ before.freeBytes) :
    (createRegions size count earlier).Ensures
      (fun regions after => ∃ fresh, regions = earlier.reverse ++ fresh ∧
        fresh.map DeviceBuffer.size = List.replicate count size ∧
        Gained before after.device (made ++ fresh.map DeviceBuffer.place))
      (fun halt _ => Overflows (site.device.nextAddress + count * (size + addressStep)) halt) site := by
  induction count generalizing earlier made site with
  | zero =>
    refine ⟨[], (List.append_nil _).symm, rfl, ?_⟩
    rw [List.map_nil, List.append_nil]
    exact h
  | succ more ih =>
    -- what is gained and what is still missing fit together, before and after each region
    rw [Nat.succ_mul] at hfits
    unfold createRegions
    apply Act.ensures_bind
    apply Act.ensures_orUndo
    refine (DeviceBuffer.create_gains h hpos (by omega)).mono ?_ ?_
    · rintro region between ⟨hsize, hgained, hnext⟩
      have hbytes : bytesOf (made ++ [region.place]) = bytesOf made + size := by
        rw [← hsize]
        simp [bytesOf, DeviceBuffer.place]
      refine (ih hgained (by omega)).mono ?_ ?_
      · rintro regions after ⟨fresh, rfl, hsizes, hall⟩
        refine ⟨region :: fresh, ?_, ?_, ?_⟩
        · rw [List.reverse_cons, List.append_assoc]
          rfl
        · rw [List.map_cons, hsize, hsizes, List.replicate_succ]
        · rw [List.append_assoc] at hall
          exact hall
      · intro halt after hover
        refine hover.mono ?_
        rw [Nat.succ_mul]
        simp only [Address] at *
        omega
    · intro halt after hover
      refine hover.mono ?_
      rw [Nat.succ_mul]
      simp only [Address] at *
      omega

/-- A pool of regions that fit into the free bytes together is gained. -/
theorem create_gains {count : Nat} {block : ConstantBlock} {layout : Layout}
    (h : Gained before site.device made) (hcount : 0 < count) (hpos : 0 < layout.size)
    (hfits : bytesOf made + count * layout.size ≤ before.freeBytes) :
    (create count block layout).Ensures
      (fun pool after => pool.constants = block ∧ pool.layout = layout ∧
        pool.regions.map DeviceBuffer.size = List.replicate count layout.size ∧
        Gained before after.device (made ++ pool.regions.map DeviceBuffer.place))
      (fun halt _ => Overflows (site.device.nextAddress + count * (layout.size + addressStep)) halt)
      site := by
  unfold create allocateRegions
  rw [if_neg (Nat.ne_of_gt hcount), if_neg (Nat.ne_of_gt hpos)]
  apply Act.ensures_bind
  apply Act.ensures_orUndo
  apply Act.ensures_mapError
  refine (createRegions_gains h hpos hfits).mono ?_ fun _ _ hover => hover.map _
  rintro regions after ⟨fresh, rfl, hsizes, hgained⟩
  apply Act.ensures_bind
  apply Act.ensures_note
  exact Act.ensures_pure ⟨rfl, rfl, hsizes, hgained⟩

/-- A gained pool can be released. -/
theorem release_gained {pool : RegionPool} (h : Gained before site.device pool.places) :
    Gained before (pool.release site).device [] :=
  DeviceBuffer.releaseAll_gained (ConstantBlock.release_gained h)

end RegionPool
end MemoryPlan
