import MemoryPlan.Proofs.Device.Housing
/-!
# Buffers as private byte arrays

Buffers are made, copied and dropped on one host device, beside memory that is used through its address
(`BufferSite`). Each of them is a byte array of its own: it is accessed exactly inside its bounds, it yields what was
last written through it, and it gives its bytes back when it is dropped. That the live buffers are housed with what
was last written through them (`BufferSite.Keeps`) is kept by every turn, and carries all of this.
-/

namespace MemoryPlan

/-- A device with the buffers that live on it. -/
structure BufferSite where
  /-- The device, with what was reported. -/
  site : Site HostDevice
  /-- The live buffers. -/
  held : List DeviceBuffer

/-- What is asked of buffers, or of their device by address. -/
inductive BufferCall where
  /-- A buffer of that size is to be made. -/
  | create (size : Nat)
  /-- A buffer is dropped. -/
  | drop (buffer : DeviceBuffer)
  /-- Bytes are to be written at an offset of a buffer. -/
  | copyIn (buffer : DeviceBuffer) (offset : Nat) (data : Bytes)
  /-- That many bytes are to be read at an offset of a buffer. -/
  | copyOut (buffer : DeviceBuffer) (offset length : Nat)
  /-- The device is called directly. -/
  | direct (call : HostCall)
  deriving DecidableEq, Repr

/-- What is answered. -/
inductive BufferReply where
  /-- The buffer was made. -/
  | made (buffer : DeviceBuffer)
  /-- The answer of the device. -/
  | device (reply : HostReply)
  deriving DecidableEq, Repr

/-- The outcome of a call. -/
abbrev BufferOutcome := Except (Halt DeviceFault) BufferReply

/-- A call in the history of some buffers. -/
abbrev BufferTurn := Turn BufferSite BufferCall BufferOutcome

namespace BufferCall

/-- The buffer that a copy accesses, with the offset and the number of bytes. -/
def range? : BufferCall → Option (DeviceBuffer × Nat × Nat)
  | copyIn buffer offset data => some (buffer, offset, data.length)
  | copyOut buffer offset length => some (buffer, offset, length)
  | _ => none

/-- A call uses live buffers only, and the device is called directly without touching one. -/
def Spares (held : List DeviceBuffer) : BufferCall → Prop
  | create _ => True
  | drop buffer | copyIn buffer _ _ | copyOut buffer _ _ => buffer ∈ held
  | direct call => HostCall.Spares held call

instance (held : List DeviceBuffer) : DecidablePred (Spares held)
  | create _ => isTrue trivial
  | drop buffer => inferInstanceAs (Decidable (buffer ∈ held))
  | copyIn buffer _ _ => inferInstanceAs (Decidable (buffer ∈ held))
  | copyOut buffer _ _ => inferInstanceAs (Decidable (buffer ∈ held))
  | direct call => inferInstanceAs (Decidable (HostCall.Spares held call))

end BufferCall

namespace BufferSite

/-- What is answered to a call, and where it leads. -/
def answer (state : BufferSite) : BufferCall → BufferOutcome × BufferSite
  | .create size =>
    match DeviceBuffer.create size state.site with
    | (.ok buffer, site) => (.ok (.made buffer), ⟨site, buffer :: state.held⟩)
    | (.error halt, site) => (.error halt, { state with site })
  | .drop buffer => (.ok (.device .done), ⟨buffer.release state.site, state.held.erase buffer⟩)
  | .copyIn buffer offset data =>
    let (outcome, site) := buffer.copyIn offset data state.site
    (outcome.map fun _ => .device .done, { state with site })
  | .copyOut buffer offset length =>
    let (outcome, site) := buffer.copyOut offset length state.site
    (outcome.map fun data => .device (.bytes data), { state with site })
  | .direct call =>
    let (outcome, device) := state.site.device.answer call
    (outcome.map .device, { state with site := { state.site with device } })

/-- Whether a call was broken off. -/
def brokeOff : BufferOutcome → Bool
  | .error (.crash _) => true
  | _ => false

/-- The turns of several calls, up to one that is broken off. -/
def history (state : BufferSite) (calls : List BufferCall) : List BufferTurn :=
  Turn.history answer brokeOff state calls

/-- What a turn does to the bytes last written through a buffer: it starts with zeros, and a write replaces those of
its range. -/
def noted (buffer : DeviceBuffer) (content : Memory) (turn : BufferTurn) : Memory :=
  match turn.call, turn.reply with
  | .create _, .ok (.made made) => if buffer = made then fun _ => 0 else content
  | .copyIn target offset data, .ok _ => if buffer = target then content.write offset data else content
  | _, _ => content

/-- The byte last written through a buffer at each of its offsets, and zero if there was none. -/
def lastWritten (earlier : List BufferTurn) (buffer : DeviceBuffer) : Memory :=
  earlier.foldl (noted buffer) fun _ => 0

/-- What a turn may do, given those before it. -/
structure Private (earlier : List BufferTurn) (turn : BufferTurn) : Prop where
  /-- A copy succeeds exactly if its range ends inside the buffer. -/
  succeeds : ∀ buffer offset length, turn.call.range? = some (buffer, offset, length) →
    ((∃ reply, turn.reply = .ok reply) ↔ offset + length ≤ buffer.size)
  /-- A copy that would leave the buffer fails as such, and has no effect. -/
  refuses : ∀ buffer offset length, turn.call.range? = some (buffer, offset, length) →
    buffer.size < offset + length →
    turn.reply = .error (.error (.copyFailed (.outOfBounds offset length buffer.size))) ∧ turn.after = turn.before
  /-- A read yields the bytes last written through the buffer, and has no effect. -/
  reads : ∀ buffer offset length reply, turn.call = .copyOut buffer offset length → turn.reply = .ok reply →
    reply = .device (.bytes ((lastWritten earlier buffer).bytes offset length)) ∧ turn.after = turn.before
  /-- A buffer that is neither dropped nor written stays, and whatever is read from it is the same as before. -/
  apart : ∀ other ∈ turn.before.held, turn.call ≠ .drop other → (∀ offset data, turn.call ≠ .copyIn other offset data) →
    other ∈ turn.after.held ∧ ∀ offset length,
      (other.copyOut offset length turn.after.site).1 = (other.copyOut offset length turn.before.site).1
  /-- The allocation of a dropped buffer is freed, nothing is reported, and exactly its size is free again. -/
  drops : ∀ buffer, turn.call = .drop buffer → ∃ device, turn.before.site.device.free buffer.address = .ok device ∧
    turn.after = ⟨{ turn.before.site with device }, turn.before.held.erase buffer⟩ ∧
    device.stats.liveBytes + buffer.size = turn.before.site.device.stats.liveBytes ∧
    device.freeBytes = turn.before.site.device.freeBytes + buffer.size
  /-- A buffer that is made has the size that was asked for and takes exactly that; otherwise nothing happens. -/
  creates : ∀ size, turn.call = .create size →
    (∃ address, turn.reply = .ok (.made ⟨address, size⟩) ∧ turn.after.held = ⟨address, size⟩ :: turn.before.held ∧
      turn.after.site.device.freeBytes + size = turn.before.site.device.freeBytes) ∨
    ∃ halt, turn.reply = .error halt ∧ turn.after = turn.before
  /-- Of the calls to buffers, only the making of one is broken off, where the addresses end. -/
  breaks : ∀ reason, turn.reply = .error (.crash reason) → (∃ call, turn.call = .direct call) ∨
    ∃ size, turn.call = .create size ∧
      Word.limit ≤ turn.before.site.device.nextAddress + max size 1 + HostDevice.addressStep

/-- After some turns, each live buffer holds what was last written through it. -/
def Keeps (earlier : List BufferTurn) (state : BufferSite) : Prop :=
  state.site.device.Houses state.held (lastWritten earlier)

variable {earlier : List BufferTurn} {turn : BufferTurn} {buffer : DeviceBuffer}

@[simp] theorem lastWritten_concat (earlier : List BufferTurn) (turn : BufferTurn) :
    lastWritten (earlier ++ [turn]) buffer = noted buffer (lastWritten earlier buffer) turn := by
  simp [lastWritten, List.foldl_append]

/-- A buffer that is made holds zeros, and no other one changes. -/
theorem noted_of_create {size : Nat} {made : DeviceBuffer} (hcall : turn.call = .create size)
    (hreply : turn.reply = .ok (.made made)) (content : Memory) :
    noted buffer content turn = if buffer = made then fun _ => 0 else content := by
  simp only [noted, hcall, hreply]

/-- A write through a buffer changes what was last written through it, and through no other one. -/
theorem noted_of_copyIn {target : DeviceBuffer} {offset : Nat} {data : Bytes} {reply : BufferReply}
    (hcall : turn.call = .copyIn target offset data) (hreply : turn.reply = .ok reply) (content : Memory) :
    noted buffer content turn = if buffer = target then content.write offset data else content := by
  simp only [noted, hcall, hreply]

/-- A failed call writes nothing. -/
theorem noted_of_error {halt : Halt DeviceFault} (hreply : turn.reply = .error halt) (content : Memory) :
    noted buffer content turn = content := by
  unfold noted
  rw [hreply]
  split <;> simp_all

/-- Only the making of a buffer and a write through it change the bytes last written there. -/
theorem noted_of_other (hmade : ∀ size, turn.call ≠ .create size)
    (hwritten : ∀ offset data, turn.call ≠ .copyIn buffer offset data) (content : Memory) :
    noted buffer content turn = content := by
  unfold noted
  split
  · next size _ hcall _ => exact absurd hcall (hmade size)
  · next target offset data _ hcall _ =>
    refine if_neg ?_
    rintro rfl
    exact hwritten offset data hcall
  · rfl

/-- A buffer that is not dropped stays. -/
theorem held_after {other : DeviceBuffer} (hanswer : turn.before.answer turn.call = (turn.reply, turn.after))
    (ho : other ∈ turn.before.held) (hdrop : turn.call ≠ .drop other) :
    other ∈ turn.after.held := by
  have hafter : (turn.before.answer turn.call).2 = turn.after := congrArg Prod.snd hanswer
  rw [← hafter]
  cases hcall : turn.call with
  | create size =>
    obtain ⟨address, made, -, -, hcreate⟩ | ⟨halt, hcreate, -⟩ := DeviceBuffer.create_cases size turn.before.site
    · simp only [answer, hcreate]
      exact List.mem_cons_of_mem _ ho
    · simp only [answer, hcreate]
      exact ho
  | drop buffer =>
    refine (List.mem_erase_of_ne ?_).mpr ho
    rintro rfl
    exact hdrop hcall
  | copyIn buffer offset data => exact ho
  | copyOut buffer offset length => exact ho
  | direct call => exact ho

namespace Keeps

variable (h : Keeps earlier turn.before) (hspares : BufferCall.Spares turn.before.held turn.call)
  (hanswer : turn.before.answer turn.call = (turn.reply, turn.after))
include h hspares hanswer

/-- Every turn leaves the live buffers with what was last written through them. -/
theorem step : Keeps (earlier ++ [turn]) turn.after := by
  obtain ⟨before, call, reply, after⟩ := turn
  dsimp only at h hspares hanswer
  unfold Keeps at h ⊢
  cases call with
  | create size =>
    obtain ⟨address, made, hpos, hop, hcreate⟩ | ⟨halt, hcreate, -⟩ := DeviceBuffer.create_cases size before.site
    · simp only [answer, hcreate, Prod.mk.injEq] at hanswer
      obtain ⟨rfl, rfl⟩ := hanswer
      refine h.create hpos hop ?_ ?_
      · intro i
        rw [lastWritten_concat, noted_of_create rfl rfl, if_pos rfl]
      · intro buffer _ hne
        rw [lastWritten_concat, noted_of_create rfl rfl, if_neg hne]
    · simp only [answer, hcreate, Prod.mk.injEq] at hanswer
      obtain ⟨rfl, rfl⟩ := hanswer
      refine h.congr fun buffer _ => ?_
      rw [lastWritten_concat, noted_of_error rfl]
  | drop buffer =>
    obtain ⟨device, hop, hkept, -⟩ := h.drop hspares
    simp only [answer, DeviceBuffer.release_of_freed hop, Prod.mk.injEq] at hanswer
    obtain ⟨rfl, rfl⟩ := hanswer
    refine hkept.congr fun other _ => ?_
    rw [lastWritten_concat, noted_of_other] <;> simp
  | copyIn buffer offset data =>
    obtain ⟨-, device, hwrite, hkept⟩ | ⟨-, hwrite⟩ := h.copyIn rfl hspares offset data
    · simp only [answer, hwrite, Except.map, Prod.mk.injEq] at hanswer
      obtain ⟨rfl, rfl⟩ := hanswer
      refine hkept.congr fun other _ => ?_
      rw [lastWritten_concat, noted_of_copyIn rfl rfl]
    · simp only [answer, hwrite, Except.map, Prod.mk.injEq] at hanswer
      obtain ⟨rfl, rfl⟩ := hanswer
      refine h.congr fun other _ => ?_
      rw [lastWritten_concat, noted_of_error rfl]
  | copyOut buffer offset length =>
    simp only [answer, h.copyOut rfl hspares, Prod.mk.injEq] at hanswer
    obtain ⟨-, rfl⟩ := hanswer
    refine h.congr fun other _ => ?_
    rw [lastWritten_concat, noted_of_other] <;> simp
  | direct call =>
    simp only [answer, Prod.mk.injEq] at hanswer
    obtain ⟨-, rfl⟩ := hanswer
    refine (h.direct hspares).congr fun other _ => ?_
    rw [lastWritten_concat, noted_of_other] <;> simp

/-- A copy is carried out inside the buffer, and otherwise refused without an effect. -/
theorem copy_cases {offset length : Nat} (hrange : turn.call.range? = some (buffer, offset, length)) :
    (offset + length ≤ buffer.size ∧ ∃ reply, turn.reply = .ok reply) ∨
    (buffer.size < offset + length ∧
      turn.reply = .error (.error (.copyFailed (.outOfBounds offset length buffer.size))) ∧
      turn.after = turn.before) := by
  obtain ⟨before, call, reply, after⟩ := turn
  dsimp only at h hspares hanswer hrange ⊢
  unfold Keeps at h
  cases call with
  | copyIn target start data =>
    obtain ⟨rfl, rfl, rfl⟩ : target = buffer ∧ start = offset ∧ data.length = length := by
      simpa [BufferCall.range?] using hrange
    obtain ⟨hle, device, hwrite, -⟩ | ⟨hlt, hwrite⟩ := h.copyIn rfl hspares start data
    · simp only [answer, hwrite, Except.map, Prod.mk.injEq] at hanswer
      exact Or.inl ⟨hle, _, hanswer.1.symm⟩
    · simp only [answer, hwrite, Except.map, Prod.mk.injEq] at hanswer
      exact Or.inr ⟨hlt, hanswer.1.symm, hanswer.2.symm⟩
  | copyOut target start count =>
    obtain ⟨rfl, rfl, rfl⟩ : target = buffer ∧ start = offset ∧ count = length := by
      simpa [BufferCall.range?] using hrange
    simp only [answer, h.copyOut rfl hspares, Prod.mk.injEq] at hanswer
    by_cases hle : start + count ≤ target.size
    · rw [if_pos hle] at hanswer
      exact Or.inl ⟨hle, _, hanswer.1.symm⟩
    · rw [if_neg hle] at hanswer
      exact Or.inr ⟨Nat.lt_of_not_le hle, hanswer.1.symm, hanswer.2.symm⟩
  | create size => cases hrange
  | drop target => cases hrange
  | direct call => cases hrange

/-- A turn that does not write to a live buffer leaves what was last written through it. -/
theorem lastWritten_eq {other : DeviceBuffer} (ho : other ∈ turn.before.held)
    (hwritten : ∀ offset data, turn.call ≠ .copyIn other offset data) :
    lastWritten (earlier ++ [turn]) other = lastWritten earlier other := by
  have hnodup := (h.step hspares hanswer).nodup
  rw [lastWritten_concat]
  by_cases hcreate : ∃ size, turn.call = .create size
  · obtain ⟨size, hcall⟩ := hcreate
    rw [hcall] at hanswer
    obtain ⟨address, made, -, -, hcreate⟩ | ⟨halt, hcreate, -⟩ := DeviceBuffer.create_cases size turn.before.site
    · simp only [answer, hcreate, Prod.mk.injEq] at hanswer
      rw [← hanswer.2] at hnodup
      rw [noted_of_create hcall hanswer.1.symm, if_neg]
      rintro rfl
      exact (List.nodup_cons.mp hnodup).1 ho
    · simp only [answer, hcreate, Prod.mk.injEq] at hanswer
      exact noted_of_error hanswer.1.symm _
  · exact noted_of_other (not_exists.mp hcreate) hwritten _

/-- Of the calls to buffers, only the making of one is broken off: a copy is carried out or refused. -/
theorem breaks {reason : String} (hcrash : turn.reply = .error (.crash reason)) :
    (∃ call, turn.call = .direct call) ∨ ∃ size, turn.call = .create size ∧
      Word.limit ≤ turn.before.site.device.nextAddress + max size 1 + HostDevice.addressStep := by
  have hcopies : ∀ buffer offset length, turn.call.range? ≠ some (buffer, offset, length) := by
    intro buffer offset length hrange
    obtain ⟨-, reply, hreply⟩ | ⟨-, hreply, -⟩ := h.copy_cases hspares hanswer hrange
    · cases hcrash.symm.trans hreply
    · cases hcrash.symm.trans hreply
  cases hcall : turn.call with
  | create size =>
    rw [hcall] at hanswer
    obtain ⟨address, made, -, hop, hcreate⟩ | ⟨halt, hcreate, hcause⟩ :=
      DeviceBuffer.create_cases size turn.before.site
    · simp only [answer, hcreate, hcrash, Prod.mk.injEq] at hanswer
      cases hanswer.1
    · simp only [answer, hcreate, hcrash, Prod.mk.injEq] at hanswer
      obtain rfl := Except.error.inj hanswer.1
      obtain ⟨-, hother⟩ | hop := hcause
      · cases hother
      · obtain ⟨-, hother⟩ | ⟨-, -, hlimit⟩ := HostDevice.allocate_eq_error hop
        · cases hother
        · exact Or.inr ⟨size, rfl, hlimit⟩
  | drop buffer =>
    rw [hcall] at hanswer
    cases hcrash.symm.trans (congrArg Prod.fst hanswer).symm
  | copyIn buffer offset data => exact absurd (congrArg BufferCall.range? hcall) (hcopies buffer offset data.length)
  | copyOut buffer offset length => exact absurd (congrArg BufferCall.range? hcall) (hcopies buffer offset length)
  | direct call => exact Or.inl ⟨call, rfl⟩

/-- Every turn is private, given what those before it left behind. -/
theorem isPrivate : Private earlier turn := by
  have hnext := h.step hspares hanswer
  constructor
  case succeeds =>
    intro buffer offset length hrange
    obtain ⟨hle, reply, hreply⟩ | ⟨hlt, hreply, -⟩ := h.copy_cases hspares hanswer hrange
    · exact iff_of_true ⟨reply, hreply⟩ hle
    · exact iff_of_false (by simp [hreply]) (Nat.not_le.mpr hlt)
  case refuses =>
    intro buffer offset length hrange hlt
    obtain ⟨hle, -⟩ | ⟨-, hreply, hsame⟩ := h.copy_cases hspares hanswer hrange
    · exact absurd hle (Nat.not_le.mpr hlt)
    · exact ⟨hreply, hsame⟩
  case reads =>
    intro buffer offset length reply hcall hreply
    rw [hcall] at hspares hanswer
    simp only [answer, h.copyOut rfl hspares, Prod.mk.injEq] at hanswer
    by_cases hle : offset + length ≤ buffer.size
    · rw [if_pos hle, hreply] at hanswer
      exact ⟨(Except.ok.inj hanswer.1).symm, hanswer.2.symm⟩
    · rw [if_neg hle, hreply] at hanswer
      cases hanswer.1
  case apart =>
    intro other ho hdrop hwritten
    have hheld := held_after hanswer ho hdrop
    refine ⟨hheld, ?_⟩
    intro offset length
    -- both reads yield the bytes last written through the other buffer, and this turn wrote none
    rw [h.copyOut rfl ho, hnext.copyOut rfl hheld, h.lastWritten_eq hspares hanswer ho hwritten]
  case drops =>
    intro buffer hcall
    rw [hcall] at hspares hanswer
    obtain ⟨device, hop, -, hlive, hfree⟩ := h.drop hspares
    simp only [answer, DeviceBuffer.release_of_freed hop, Prod.mk.injEq] at hanswer
    exact ⟨device, hop, hanswer.2.symm, hlive, hfree⟩
  case creates =>
    intro size hcall
    rw [hcall] at hanswer
    obtain ⟨address, made, -, hop, hcreate⟩ | ⟨halt, hcreate, -⟩ := DeviceBuffer.create_cases size turn.before.site
    · simp only [answer, hcreate, Prod.mk.injEq] at hanswer
      refine Or.inl ⟨address, hanswer.1.symm, ?_, ?_⟩
      · rw [← hanswer.2]
      · rw [← hanswer.2]
        exact (h.counted.allocate h.sound hop).2.2
    · simp only [answer, hcreate, Prod.mk.injEq] at hanswer
      exact Or.inr ⟨halt, hanswer.1.symm, hanswer.2.symm⟩
  case breaks => exact fun reason => h.breaks hspares hanswer

end Keeps

/-- On a device that was not used yet no buffer lives. -/
theorem keeps_start {start : BufferSite} (hnew : start.site.device.IsNew) (hnone : start.held = []) :
    Keeps [] start := by
  have hbooks := hnew.books
  unfold Keeps
  rw [hnone]
  refine ⟨hbooks.sound, ⟨hbooks.booked.liveBytes, hbooks.booked.fits⟩, ?_, ?_, List.nodup_nil, ?_⟩ <;>
    simp

/-- Whatever buffers are made, dropped and copied on a device that was set up, and however the device is called
beside them: a copy succeeds exactly if its range ends inside the buffer, and is otherwise refused without an effect.
A read yields the bytes last written through the buffer, and zeros at first. No call to one buffer changes what is
read from another one, and dropping a buffer always frees it and gives back exactly its size. The direct calls have
to free no live buffer and write to none. -/
theorem buffers_are_private {start : BufferSite} (hnew : start.site.device.IsNew) (hnone : start.held = [])
    (calls : List BufferCall)
    (hspares : ∀ turn ∈ start.history calls, BufferCall.Spares turn.before.held turn.call) :
    ∀ earlier turn later, start.history calls = earlier ++ turn :: later → Private earlier turn := by
  intro earlier turn later hsplit
  obtain ⟨hbefore, hanswer⟩ := Turn.eq_of_history hsplit
  have hkeeps : Keeps earlier (Turn.reached start earlier) := by
    refine Turn.history_induction (keeps_start hnew hnone) ?_ ⟨turn :: later, hsplit.symm⟩
    intro past next hprefix hnext hkept
    have hmem : next ∈ start.history calls :=
      hprefix.subset (List.mem_append_right past (List.mem_singleton_self next))
    exact hkept.step (hspares next hmem) hnext
  rw [← hbefore] at hkeeps
  have hmem : turn ∈ start.history calls := by
    rw [hsplit]
    exact List.mem_append_right earlier (List.mem_cons_self ..)
  exact hkeeps.isPrivate (hspares turn hmem) hanswer

/-- Two buffers side by side, the first of which fills its allocation to the last byte. -/
def neighbourCalls : List BufferCall :=
  let first : DeviceBuffer := ⟨0x10000000, 256⟩
  let second : DeviceBuffer := ⟨0x10000100, 4⟩
  [.create 256, .create 4, .copyIn first 254 [7, 8], .copyIn second 0 [9], .copyOut first 256 0, .copyOut first 256 1,
    .copyOut first 18446744073709551615 2, .direct (.allocate 5), .drop first, .copyOut second 0 4, .create 0]

/-- No byte is read behind the last one of a buffer, nor by an offset that wraps around; a read of no bytes there
succeeds, and what was written to one buffer is not seen in the other one. -/
theorem buffers_are_private_neighbours :
    HostDevice.thousand.IsNew ∧
      (∀ turn ∈ history ⟨⟨HostDevice.thousand, {}⟩, []⟩ neighbourCalls, BufferCall.Spares turn.before.held turn.call) ∧
      (history ⟨⟨HostDevice.thousand, {}⟩, []⟩ neighbourCalls).map Turn.reply =
        [.ok (.made ⟨0x10000000, 256⟩), .ok (.made ⟨0x10000100, 4⟩), .ok (.device .done), .ok (.device .done),
          .ok (.device (.bytes [])), .error (.error (.copyFailed (.outOfBounds 256 1 256))),
          .error (.error (.copyFailed (.outOfBounds 18446744073709551615 2 256))),
          .ok (.device (.address 0x10000200)), .ok (.device .done), .ok (.device (.bytes [9, 0, 0, 0])),
          .error (.error (.allocationFailed .zeroSize))] ∧
      ∀ earlier turn later, history ⟨⟨HostDevice.thousand, {}⟩, []⟩ neighbourCalls = earlier ++ turn :: later →
        Private earlier turn := by
  have hnew : HostDevice.thousand.IsNew := ⟨1000, 100, 8, 0, "host-simulated", rfl⟩
  have hspares : ∀ turn ∈ history ⟨⟨HostDevice.thousand, {}⟩, []⟩ neighbourCalls,
      BufferCall.Spares turn.before.held turn.call := by decide
  exact ⟨hnew, hspares, by decide, buffers_are_private hnew rfl neighbourCalls hspares⟩

end BufferSite
end MemoryPlan
