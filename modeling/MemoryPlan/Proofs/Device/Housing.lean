import MemoryPlan.Proofs.Device.Bookkeeping
/-!
# Housed buffers

Several buffers live on one host device, which keeps their bytes in one memory. They are housed
(`HostDevice.Houses`) if each is a live allocation of its own with bytes of its own. Every operation of the device
keeps them housed: what is allocated lies behind them, what is freed was one of them or lies elsewhere, and a write
through one of them lies inside it.
-/

namespace MemoryPlan

/-- Neither does the call free one of the buffers, nor does it write to one. -/
def HostCall.Spares (held : List DeviceBuffer) : HostCall → Prop
  | .free address => ∀ buffer ∈ held, buffer.address ≠ address
  | .copyIn address data => ∀ buffer ∈ held,
      address + data.length ≤ buffer.address ∨ buffer.address + buffer.size ≤ address
  | _ => True

instance (held : List DeviceBuffer) : DecidablePred (HostCall.Spares held)
  | .free address => inferInstanceAs (Decidable (∀ buffer ∈ held, buffer.address ≠ address))
  | .copyIn address data => inferInstanceAs (Decidable (∀ buffer ∈ held,
      address + data.length ≤ buffer.address ∨ buffer.address + buffer.size ≤ address))
  | .allocate _ => isTrue trivial
  | .copyOut _ _ => isTrue trivial

namespace DeviceBuffer

variable {site : Site HostDevice} {buffer : DeviceBuffer} {device : HostDevice} {fault : DeviceFault}
  {offset length : Nat} {data : Bytes}

theorem place_has {i : Nat} (hi : i < buffer.size) : buffer.place.Has (buffer.address + i) :=
  ⟨Nat.le_add_right _ _, Nat.add_lt_add_left hi _⟩

/-- The end of a range is computed without wrapping around, so that the test is one on natural numbers. -/
theorem checkRange_eq (hsize : buffer.size < Word.limit) (offset length : Nat) :
    buffer.checkRange offset length =
      if offset + length ≤ buffer.size then .ok ()
      else .error (.copyFailed (.outOfBounds offset length buffer.size)) := by
  unfold checkRange
  by_cases hword : offset + length < Word.limit
  · rw [Word.add?_eq_some.mpr ⟨hword, rfl⟩]
  · have hnone : Word.add? offset length = none := Word.add?_eq_none.mpr (Nat.le_of_not_lt hword)
    rw [hnone, if_neg (by omega)]

/-- A write inside the buffer is a write to the device. -/
theorem copyIn_of_checked (hcheck : buffer.checkRange offset data.length = .ok ())
    (hop : site.device.copyIn (buffer.address + offset) data = .ok device) :
    buffer.copyIn offset data site = (.ok (), { site with device }) := by
  unfold copyIn
  rw [hcheck, Act.bind_apply]
  simp [Act.ofExcept, Act.value, Act.call, Device.copyIn, hop, Except.map, HostDevice.settle]

/-- A write that leaves the buffer does not reach the device. -/
theorem copyIn_of_refused (hcheck : buffer.checkRange offset data.length = .error fault) :
    buffer.copyIn offset data site = (.error (.error fault), site) := by
  unfold copyIn
  rw [hcheck]
  rfl

/-- A read inside the buffer is a read from the device. -/
theorem copyOut_of_checked (hcheck : buffer.checkRange offset length = .ok ())
    (hop : site.device.copyOut (buffer.address + offset) length = .ok data) :
    buffer.copyOut offset length site = (.ok data, site) := by
  unfold copyOut
  rw [hcheck, Act.bind_apply]
  simp [Act.ofExcept, Act.value, Act.call, Device.copyOut, hop]

/-- A read that leaves the buffer does not reach the device. -/
theorem copyOut_of_refused (hcheck : buffer.checkRange offset length = .error fault) :
    buffer.copyOut offset length site = (.error (.error fault), site) := by
  unfold copyOut
  rw [hcheck]
  rfl

/-- A buffer whose free succeeds leaves no report. -/
theorem release_of_freed (hop : site.device.free buffer.address = .ok device) :
    buffer.release site = { site with device } := by
  simp [release, Device.free, hop, Except.map, HostDevice.settle]

/-- A buffer is made of an allocation; nothing is made of no bytes or of a refused allocation. -/
theorem create_cases (size : Nat) (site : Site HostDevice) :
    (∃ address made, 0 < size ∧ site.device.allocate size = .ok (address, made.device) ∧
      create size site = (.ok ⟨address, size⟩, made)) ∨
    ∃ halt, create size site = (.error halt, site) ∧
      (size = 0 ∧ halt = .error (.allocationFailed .zeroSize) ∨ site.device.allocate size = .error halt) := by
  by_cases hzero : size = 0
  · subst hzero
    exact Or.inr ⟨_, rfl, Or.inl ⟨rfl, rfl⟩⟩
  · cases hop : site.device.allocate size with
    | error halt =>
      refine Or.inr ⟨halt, ?_, Or.inr rfl⟩
      simp [create, hzero, Act.bind_apply, Act.call, Device.allocate, hop, HostDevice.settle]
    | ok made =>
      obtain ⟨address, after⟩ := made
      have hmade : (create size site).1 = .ok ⟨address, size⟩ ∧ (create size site).2.device = after := by
        unfold create
        rw [if_neg hzero, Act.bind_apply]
        simp only [Act.call, Device.allocate, hop, HostDevice.settle]
        exact ⟨rfl, rfl⟩
      exact Or.inl ⟨address, (create size site).2, Nat.pos_of_ne_zero hzero, by rw [hmade.2],
        Prod.ext hmade.1 rfl⟩

end DeviceBuffer

namespace HostDevice

/-- The buffers live on the device, each with a content of its own. -/
structure Houses (device : HostDevice) (held : List DeviceBuffer) (content : DeviceBuffer → Memory) : Prop where
  /-- The live allocations lie one behind the other. -/
  sound : device.Sound
  /-- The live bytes are those of the live allocations. -/
  counted : device.Counted
  /-- Each buffer is a live allocation. -/
  inside : ∀ buffer ∈ held, buffer.place ∈ device.extents
  /-- Each buffer has bytes. -/
  pos : ∀ buffer ∈ held, 0 < buffer.size
  /-- No buffer is held twice. -/
  nodup : held.Nodup
  /-- The bytes of each buffer are its content. -/
  memory : ∀ buffer ∈ held, ∀ i < buffer.size, device.memory (buffer.address + i) = content buffer i

namespace Houses

variable {device after : HostDevice} {held : List DeviceBuffer} {content changed : DeviceBuffer → Memory}
  {buffer other : DeviceBuffer} {address : Address} {size : Nat}
variable (h : device.Houses held content)
include h

/-- The size of a buffer is a word. -/
theorem size_lt (hb : buffer ∈ held) : buffer.size < Word.limit := by
  have hbelow := h.sound.below buffer.place (h.inside buffer hb)
  have hfits := h.sound.fits
  change buffer.address + max buffer.size 1 ≤ device.nextAddress at hbelow
  simp only [Address] at *
  omega

/-- Buffers that differ start at different addresses. -/
theorem address_ne (hb : buffer ∈ held) (ho : other ∈ held) (hne : buffer ≠ other) :
    buffer.address ≠ other.address := by
  intro heq
  have hplace : buffer.place = other.place := h.sound.eq_of_start (h.inside buffer hb) (h.inside other ho) heq
  have hsize : buffer.size = other.size := congrArg TensorPlace.size hplace
  apply hne
  calc buffer = ⟨buffer.address, buffer.size⟩ := rfl
    _ = ⟨other.address, other.size⟩ := by rw [heq, hsize]

/-- Different buffers have no byte in common. -/
theorem apart (hb : buffer ∈ held) (ho : other ∈ held) (hne : buffer ≠ other) :
    buffer.address + buffer.size ≤ other.address ∨ other.address + other.size ≤ buffer.address := by
  have hplaces : buffer.place ≠ other.place := fun heq =>
    h.address_ne hb ho hne (congrArg TensorPlace.address heq)
  rcases h.sound.precedes_or (h.inside buffer hb) (h.inside other ho) hplaces with hprecedes | hprecedes
  · have hle : buffer.address + max buffer.size 1 ≤ other.address := hprecedes
    simp only [Address] at *
    omega
  · have hle : other.address + max other.size 1 ≤ buffer.address := hprecedes
    simp only [Address] at *
    omega

/-- What a buffer holds may be described in another way. -/
theorem congr (hsame : ∀ buffer ∈ held, changed buffer = content buffer) : device.Houses held changed where
  sound := h.sound
  counted := h.counted
  inside := h.inside
  pos := h.pos
  nodup := h.nodup
  memory := by
    intro buffer hb i hi
    rw [hsame buffer hb]
    exact h.memory buffer hb i hi

/-- Some of the buffers. -/
theorem sublist {kept : List DeviceBuffer} (hsub : kept.Sublist held) : device.Houses kept content where
  sound := h.sound
  counted := h.counted
  inside := fun buffer hb => h.inside buffer (hsub.subset hb)
  pos := fun buffer hb => h.pos buffer (hsub.subset hb)
  nodup := h.nodup.sublist hsub
  memory := fun buffer hb => h.memory buffer (hsub.subset hb)

/-- An allocation changes no buffer. -/
theorem allocate (hop : device.allocate size = .ok (address, after)) : after.Houses held content := by
  obtain ⟨hsound, hextents, hbehind, hmemory⟩ := h.sound.allocate hop
  refine ⟨hsound, (h.counted.allocate h.sound hop).1, ?_, h.pos, h.nodup, ?_⟩
  · intro buffer hb
    rw [hextents]
    exact List.mem_append_left _ (h.inside buffer hb)
  · intro buffer hb i hi
    have hlt : buffer.address + i < address :=
      (hbehind buffer.place (h.inside buffer hb)).lt_start (DeviceBuffer.place_has hi)
    rw [hmemory _ hlt]
    exact h.memory buffer hb i hi

/-- A new buffer has zeros, and is none of the others, which stay as they are. -/
theorem create (hpos : 0 < size) (hop : device.allocate size = .ok (address, after))
    (hzero : ∀ i, changed ⟨address, size⟩ i = 0)
    (hsame : ∀ buffer ∈ held, buffer ≠ ⟨address, size⟩ → changed buffer = content buffer) :
    after.Houses (⟨address, size⟩ :: held) changed := by
  obtain ⟨-, hextents, hbehind, -⟩ := h.sound.allocate hop
  have hnew : (⟨address, size⟩ : DeviceBuffer) ∉ held := by
    intro hb
    have hprecedes : address + max size 1 ≤ address := hbehind _ (h.inside _ hb)
    simp only [Address] at *
    omega
  have hkept : after.Houses held changed :=
    (h.allocate hop).congr fun buffer hb => hsame buffer hb fun heq => hnew (heq ▸ hb)
  refine ⟨hkept.sound, hkept.counted, ?_, ?_, List.nodup_cons.mpr ⟨hnew, h.nodup⟩, ?_⟩
  · refine List.forall_mem_cons.mpr ⟨?_, hkept.inside⟩
    rw [hextents]
    exact List.mem_append_right _ (List.mem_singleton_self _)
  · exact List.forall_mem_cons.mpr ⟨hpos, h.pos⟩
  · refine List.forall_mem_cons.mpr ⟨?_, hkept.memory⟩
    intro i hi
    rw [hzero i]
    exact h.sound.memory_allocate hop (DeviceBuffer.place_has hi)

/-- What is taken back elsewhere changes no buffer. -/
theorem free (hop : device.free address = .ok after) (hspare : ∀ buffer ∈ held, buffer.address ≠ address) :
    after.Houses held content := by
  obtain ⟨hsound, hstay, hmemory⟩ := h.sound.free hop
  obtain ⟨⟨a, hfound⟩, -⟩ := live_free hop
  have hinside : ∀ buffer ∈ held, buffer.place ∈ after.extents := fun buffer hb =>
    hstay buffer.place (h.inside buffer hb) (hspare buffer hb)
  refine ⟨hsound, (h.counted.free hfound hop).1, hinside, h.pos, h.nodup, ?_⟩
  intro buffer hb i hi
  rw [hmemory buffer.place (hinside buffer hb) _ (DeviceBuffer.place_has hi)]
  exact h.memory buffer hb i hi

/-- A buffer can be taken back. Its bytes are free again, and the other buffers stay as they are. -/
theorem drop (hb : buffer ∈ held) :
    ∃ after, device.free buffer.address = .ok after ∧ after.Houses (held.erase buffer) content ∧
      after.stats.liveBytes + buffer.size = device.stats.liveBytes ∧
      after.freeBytes = device.freeBytes + buffer.size := by
  obtain ⟨a, ha, hplace⟩ := mem_extents.mp (h.inside buffer hb)
  have hfound : (device.allocationAt? buffer.address).isSome := by
    unfold allocationAt?
    refine List.find?_isSome.mpr ⟨a, ha, ?_⟩
    exact decide_eq_true (congrArg TensorPlace.address hplace)
  obtain ⟨b, hfound⟩ := Option.isSome_iff_exists.mp hfound
  have hself : b.place = buffer.place := by
    have hbase := List.find?_some hfound
    have hbase : b.base = buffer.address := of_decide_eq_true hbase
    exact h.sound.eq_of_start (mem_extents.mpr ⟨b, List.mem_of_find?_eq_some hfound, rfl⟩) (h.inside buffer hb) hbase
  have hsize : b.size = buffer.size := congrArg TensorPlace.size hself
  obtain ⟨after, hop⟩ : ∃ after, device.free buffer.address = .ok after := by
    unfold HostDevice.free
    rw [hfound]
    exact ⟨_, rfl⟩
  obtain ⟨-, hlive, hfree⟩ := h.counted.free hfound hop
  rw [hsize] at hlive hfree
  refine ⟨after, hop, (h.sublist List.erase_sublist).free hop ?_, hlive, hfree⟩
  intro other ho
  obtain ⟨hne, ho⟩ := h.nodup.mem_erase_iff.mp ho
  exact h.address_ne ho hb hne

/-- A write changes the content of the buffers in its range. -/
theorem write {data : Bytes} (hop : device.copyIn address data = .ok after)
    (hchanged : ∀ buffer ∈ held, ∀ i < buffer.size,
      changed buffer i = if address ≤ buffer.address + i ∧ buffer.address + i < address + data.length then
        data.getD (buffer.address + i - address) 0 else content buffer i) :
    after.Houses held changed := by
  obtain ⟨hextents, hnext⟩ := extents_copyIn hop
  obtain ⟨hstats, htotal, hreserved⟩ := counts_copyIn hop
  have hcounted := h.counted.of_alike hextents hstats htotal hreserved
  refine ⟨h.sound.of_extents hextents hnext, hcounted, ?_, h.pos, h.nodup, ?_⟩
  · rw [hextents]
    exact h.inside
  · intro buffer hb i hi
    rw [h.sound.memory_copyIn hop, hchanged buffer hb i hi, ← h.memory buffer hb i hi]
    rfl

/-- A buffer is written exactly inside its bounds; only its own content changes. -/
theorem copyIn {site : Site HostDevice} (hsite : site.device = device) (hb : buffer ∈ held) (offset : Nat)
    (data : Bytes) :
    (offset + data.length ≤ buffer.size ∧
      ∃ after, buffer.copyIn offset data site = (.ok (), { site with device := after }) ∧
        after.Houses held fun other => if other = buffer then (content other).write offset data else content other) ∨
    buffer.size < offset + data.length ∧ buffer.copyIn offset data site =
      (.error (.error (.copyFailed (.outOfBounds offset data.length buffer.size))), site) := by
  subst hsite
  have hcheck := DeviceBuffer.checkRange_eq (h.size_lt hb) offset data.length
  by_cases hle : offset + data.length ≤ buffer.size
  · rw [if_pos hle] at hcheck
    obtain ⟨after, hop, -⟩ := h.sound.copyIn_eq (h.inside buffer hb) (DeviceBuffer.covers_of_checkRange hcheck)
    refine Or.inl ⟨hle, after, DeviceBuffer.copyIn_of_checked hcheck hop, h.write hop ?_⟩
    intro other ho i hi
    by_cases heq : other = buffer
    · subst heq
      rw [if_pos rfl, Memory.write]
      have hin : (offset ≤ i ∧ i < offset + data.length) ↔
          (other.address + offset ≤ other.address + i ∧ other.address + i < other.address + offset + data.length) := by
        simp only [Address]
        omega
      have hsub : other.address + i - (other.address + offset) = i - offset := Nat.add_sub_add_left _ _ _
      rw [hsub]
      exact if_congr hin rfl rfl
    · -- the range lies in the buffer, and so apart from the other one
      have hapart := h.apart ho hb heq
      rw [if_neg heq, if_neg]
      simp only [Address] at *
      omega
  · rw [if_neg hle] at hcheck
    exact Or.inr ⟨Nat.lt_of_not_le hle, DeviceBuffer.copyIn_of_refused hcheck⟩

/-- A buffer is read exactly inside its bounds, and yields its content. -/
theorem copyOut {site : Site HostDevice} (hsite : site.device = device) (hb : buffer ∈ held) (offset length : Nat) :
    buffer.copyOut offset length site =
      (if offset + length ≤ buffer.size then .ok ((content buffer).bytes offset length)
        else .error (.error (.copyFailed (.outOfBounds offset length buffer.size))), site) := by
  subst hsite
  have hcheck := DeviceBuffer.checkRange_eq (h.size_lt hb) offset length
  by_cases hle : offset + length ≤ buffer.size
  · rw [if_pos hle] at hcheck
    have hop := h.sound.copyOut_eq (h.inside buffer hb) (DeviceBuffer.covers_of_checkRange hcheck)
    have hbytes : site.device.memory.bytes (buffer.address + offset) length = (content buffer).bytes offset length := by
      apply List.map_congr_left
      intro i hi
      have hlt : i < length := List.mem_range.mp hi
      rw [show buffer.address + offset + i = buffer.address + (offset + i) from Nat.add_assoc _ _ _]
      exact h.memory buffer hb (offset + i) (by omega)
    rw [DeviceBuffer.copyOut_of_checked hcheck hop, if_pos hle, hbytes]
  · rw [if_neg hle] at hcheck
    rw [DeviceBuffer.copyOut_of_refused hcheck, if_neg hle]

/-- A call to the device that spares the buffers changes none of them. -/
theorem direct {call : HostCall} (hspares : HostCall.Spares held call) :
    (device.answer call).2.Houses held content := by
  have hmove : Move ⟨device, call, (device.answer call).1, (device.answer call).2⟩ := move rfl
  have hstays : (device.answer call).2 = device → (device.answer call).2.Houses held content := by
    intro hsame
    rw [hsame]
    exact h
  cases hmove with
  | allocates hcall hreply hop => exact h.allocate hop
  | frees hcall hreply hfound hop =>
    dsimp only at hcall
    subst hcall
    exact h.free hop hspares
  | writes hcall hreply hlocate hop =>
    dsimp only at hcall
    subst hcall
    refine h.write hop ?_
    intro buffer hb i hi
    have hapart := hspares buffer hb
    rw [if_neg]
    simp only [Address] at *
    omega
  | refuses hcall hreply hsame => exact hstays hsame
  | unknown hcall hreply hsame => exact hstays hsame
  | reads hcall hreply hsame => exact hstays hsame
  | misses hrange hreply hsame => exact hstays hsame

end Houses

end HostDevice

end MemoryPlan
