import Mathlib.Order.Bounds.Basic
import MemoryPlan.Proofs.Device.Calls
import MemoryPlan.Proofs.Gained
/-!
# The books of a host device

Whatever is asked of a host device, its counters agree with its live allocations, which lie apart at multiples
of the address step, and no address is handed out twice. A call that fails changes nothing, and it fails only
for its one reason. An allocation that fits into the free bytes is broken off where the address range ends, and
this happens one step early: the address behind it is rounded up with a sum that adds a whole step, so that the
last multiple of the step is never a next address although it is a word.
-/

namespace MemoryPlan

namespace HostDevice

/-- A device as it is set up, before its first use. -/
def setUp (total reserved streamLimit : Nat) (ordinal : Int) (label : String) : HostDevice :=
  ({ total, ordinal, label, streamLimit } : HostDevice).withReserved reserved

/-- What an allocation takes of the address range: its size in whole steps, at least one. -/
def span (size : Nat) : Nat := (max size 1 + (addressStep - 1)) / addressStep * addressStep

/-- What a turn takes of the address range: the span of an allocation that fits into the free bytes. -/
def spent (turn : HostTurn) : Nat :=
  match turn.call with
  | .allocate size => if size ≤ turn.before.freeBytes then span size else 0
  | _ => 0

/-- The address that a turn handed out. -/
def handedOut? (turn : HostTurn) : Option Address :=
  match turn.reply with
  | .ok (.address address) => some address
  | _ => none

/-- The live bytes of the devices that the first turns of a history lead to. -/
def levels (start : HostDevice) (earlier : List HostTurn) : Set Nat :=
  {bytes | ∃ past, past <+: earlier ∧ (Turn.reached start past).stats.liveBytes = bytes}

/-- The counters of a device agree with what is live after some turns. -/
structure Booked (start : HostDevice) (earlier : List HostTurn) (device : HostDevice) : Prop where
  /-- The live bytes are those of the live allocations. -/
  liveBytes : device.stats.liveBytes = bytesOf device.extents
  /-- The allocations that were not taken back are live. -/
  number : device.stats.allocations = device.stats.frees + device.extents.length
  /-- The live bytes and those of somebody else fit the device, so that the free bytes are no negative number. -/
  fits : device.stats.liveBytes + device.reserved ≤ device.total
  /-- No more is live than at the peak. -/
  le_peak : device.stats.liveBytes ≤ device.stats.peakBytes
  /-- The peak is the most that was live at any time. -/
  peak : IsGreatest (levels start earlier) device.stats.peakBytes
  /-- Each live allocation starts at a multiple of the address step. -/
  aligned : ∀ place ∈ device.extents, addressStep ∣ place.start
  /-- No two live allocations have a byte in common. -/
  apart : device.extents.Pairwise TensorPlace.Apart
  /-- Each live allocation lies below the next address. -/
  below : ∀ place ∈ device.extents, place.start < device.nextAddress ∧ place.stop ≤ device.nextAddress

/-- What a turn may answer to a call for memory or to one that gives it back. -/
structure Settles (turn : HostTurn) : Prop where
  /-- Memory is refused exactly if it is more than the free bytes. -/
  allocate : ∀ size, turn.call = .allocate size →
    ((∃ fault, turn.reply = .error (.error fault)) ↔ turn.before.memoryInfo.free < size)
  /-- Memory that is free is handed out exactly if its end and a whole step add up to a word. -/
  breaks : ∀ size, turn.call = .allocate size → size ≤ turn.before.memoryInfo.free →
    (turn.reply = .error (.crash addressOverflow) ↔
      Word.limit ≤ turn.before.nextAddress + max size 1 + addressStep) ∧
    ((∃ address, turn.reply = .ok (.address address)) ↔
      turn.before.nextAddress + max size 1 + addressStep < Word.limit)
  /-- Memory is not taken back exactly if no live allocation starts there. -/
  free : ∀ address, turn.call = .free address →
    ((∃ fault, turn.reply = .error (.error fault)) ↔
      ∀ place ∈ turn.before.extents, place.start ≠ address)
  /-- A call that fails changes nothing. -/
  same : ∀ halt, turn.reply = .error halt → turn.after = turn.before
  /-- What gives memory back is not broken off. -/
  crash : ∀ reason, turn.reply = .error (.crash reason) → ∀ address, turn.call ≠ .free address

variable {start device after : HostDevice} {earlier : List HostTurn} {turn : HostTurn} {size : Nat}
  {address : Address}

/-- A further turn adds one level. -/
theorem levels_concat (start : HostDevice) (earlier : List HostTurn) (turn : HostTurn) :
    levels start (earlier ++ [turn]) = insert turn.after.stats.liveBytes (levels start earlier) := by
  ext bytes
  simp only [levels, Set.mem_ofPred_eq, Set.mem_insert_iff, List.prefix_concat_iff, or_and_right, exists_or,
    exists_eq_left, Turn.reached_concat]
  rw [eq_comm]

/-- An allocation that fits into the free bytes takes its span. -/
theorem spent_allocate (hcall : turn.call = .allocate size) (hfits : size ≤ turn.before.freeBytes) :
    spent turn = span size := by
  rw [spent, hcall]
  exact if_pos hfits

/-- What a further turn takes is added to what the others took. -/
theorem spent_concat (earlier : List HostTurn) (turn : HostTurn) :
    ((earlier ++ [turn]).map spent).sum = (earlier.map spent).sum + spent turn := by
  rw [List.map_append, List.sum_append, List.map_singleton, List.sum_singleton]

/-- From a multiple of the address step on, an allocation takes its span. -/
theorem nextAddress_eq_add_span (hdvd : addressStep ∣ device.nextAddress)
    (hop : device.allocate size = .ok (address, after)) : after.nextAddress = device.nextAddress + span size := by
  obtain ⟨-, -, -, -, -, hnext⟩ := allocate_eq_ok hop
  rw [hnext]
  unfold span addressStep at *
  simp only [Address] at *
  omega

/-- A free takes one live allocation away, one that starts at the address. -/
theorem free_eq_ok {a : Allocation} (hfound : device.allocationAt? address = some a)
    (hop : device.free address = .ok after) :
    (∃ front behind, device.extents = front ++ a.place :: behind ∧ after.extents = front ++ behind) ∧
      after.stats = device.stats.freed a.size ∧ after.total = device.total ∧
      after.reserved = device.reserved ∧ after.nextAddress = device.nextAddress := by
  constructor
  · obtain ⟨hself, front, behind, hlive, hfront⟩ := List.find?_eq_some_iff_append.mp hfound
    have hbefore : ∀ b ∈ front, ¬decide (b.base = address) = true := fun b hb => by simpa using hfront b hb
    have hafter : after.live = front ++ behind := by
      rw [(live_free hop).2, hlive, List.eraseP_append_right _ hbefore]
      exact congrArg (front ++ ·) (List.eraseP_cons_of_pos hself)
    refine ⟨front.map Allocation.place, behind.map Allocation.place, ?_, ?_⟩
    · rw [extents, hlive, List.map_append, List.map_cons]
    · rw [extents, hafter, List.map_append]
  · unfold HostDevice.free at hop
    rw [hfound] at hop
    obtain rfl := Except.ok.inj hop
    exact ⟨rfl, rfl, rfl, rfl⟩

/-- The live bytes are those of the live allocations, and fit the device beside those of somebody else. -/
structure Counted (device : HostDevice) : Prop where
  /-- The live bytes are those of the live allocations. -/
  liveBytes : device.stats.liveBytes = bytesOf device.extents
  /-- The live bytes and those of somebody else fit the device. -/
  fits : device.stats.liveBytes + device.reserved ≤ device.total

/-- An allocation is counted, and its size is no longer free. -/
theorem Counted.allocate (h : device.Counted) (hs : device.Sound)
    (hop : device.allocate size = .ok (address, after)) :
    after.Counted ∧ after.stats.liveBytes = device.stats.liveBytes + size ∧
      after.freeBytes + size = device.freeBytes := by
  obtain ⟨hsize, hstats, htotal, hreserved, -⟩ := allocate_eq_ok hop
  have hextents := (hs.allocate hop).2.1
  have hfits := h.fits
  have hlive : after.stats.liveBytes = device.stats.liveBytes + size := by
    rw [hstats]
    rfl
  refine ⟨⟨?_, ?_⟩, hlive, ?_⟩
  · rw [hlive, hextents, h.liveBytes]
    unfold bytesOf
    rw [List.map_append, List.sum_append, List.map_singleton, List.sum_singleton]
  · unfold freeBytes at hsize
    rw [hlive, hreserved, htotal]
    omega
  · unfold freeBytes at hsize ⊢
    rw [hlive, hreserved, htotal]
    omega

/-- What is taken back is no longer counted, and its size is free again. -/
theorem Counted.free (h : device.Counted) {a : Allocation} (hfound : device.allocationAt? address = some a)
    (hop : device.free address = .ok after) :
    after.Counted ∧ after.stats.liveBytes + a.size = device.stats.liveBytes ∧
      after.freeBytes = device.freeBytes + a.size := by
  obtain ⟨⟨front, behind, hbefore, hafter⟩, hstats, htotal, hreserved, -⟩ := free_eq_ok hfound hop
  have hfits := h.fits
  have hbytes : device.stats.liveBytes = bytesOf after.extents + a.size := by
    rw [h.liveBytes, hbefore, hafter]
    simp only [bytesOf, List.map_append, List.map_cons, List.sum_append, List.sum_cons]
    change _ + (a.size + _) = _
    omega
  have hlive : after.stats.liveBytes = device.stats.liveBytes - a.size := by
    rw [hstats]
    rfl
  refine ⟨⟨by omega, ?_⟩, by omega, ?_⟩
  · rw [hreserved, htotal]
    omega
  · unfold freeBytes
    rw [hreserved, htotal]
    omega

/-- A device that counts the same, with its allocations in the same places. -/
theorem Counted.of_alike (h : device.Counted) (hextents : after.extents = device.extents)
    (hstats : after.stats = device.stats) (htotal : after.total = device.total)
    (hreserved : after.reserved = device.reserved) : after.Counted := by
  refine ⟨?_, ?_⟩
  · rw [hstats, hextents]
    exact h.liveBytes
  · rw [hstats, hreserved, htotal]
    exact h.fits

/-- What holds after some turns, with the part of the address range that they took. -/
structure Books (start : HostDevice) (earlier : List HostTurn) (device : HostDevice) : Prop where
  /-- The live allocations lie one behind the other. -/
  sound : device.Sound
  /-- The next address is a multiple of the address step. -/
  aligned : addressStep ∣ device.nextAddress
  /-- The next address lies no further than behind all that the turns took. -/
  next : device.nextAddress ≤ start.nextAddress + (earlier.map spent).sum
  /-- The counters agree with what is live. -/
  booked : Booked start earlier device

namespace Books

variable (h : Books start earlier turn.before)
include h

theorem counted : turn.before.Counted := ⟨h.booked.liveBytes, h.booked.fits⟩

/-- What a further turn takes lies behind what the others took. -/
theorem next_concat (hnext : turn.after.nextAddress ≤ turn.before.nextAddress + spent turn) :
    turn.after.nextAddress ≤ start.nextAddress + ((earlier ++ [turn]).map spent).sum := by
  rw [spent_concat, ← Nat.add_assoc]
  exact Nat.le_trans hnext (Nat.add_le_add_right h.next _)

/-- A turn that leaves the allocations where they are, and the counters, keeps the books. -/
theorem of_alike (hextents : turn.after.extents = turn.before.extents)
    (hnext : turn.after.nextAddress = turn.before.nextAddress) (hstats : turn.after.stats = turn.before.stats)
    (htotal : turn.after.total = turn.before.total) (hreserved : turn.after.reserved = turn.before.reserved) :
    Books start (earlier ++ [turn]) turn.after := by
  have hb := h.booked
  have hcounted := h.counted.of_alike hextents hstats htotal hreserved
  refine ⟨h.sound.of_extents hextents hnext, ?_, h.next_concat ?_, hcounted.liveBytes, ?_, hcounted.fits,
    ?_, ?_, ?_, ?_, ?_⟩
  · rw [hnext]
    exact h.aligned
  · rw [hnext]
    exact Nat.le_add_right _ _
  · rw [hstats, hextents]
    exact hb.number
  · rw [hstats]
    exact hb.le_peak
  · rw [levels_concat, hstats, ← max_eq_right hb.le_peak]
    exact hb.peak.insert _
  · rw [hextents]
    exact hb.aligned
  · rw [hextents]
    exact hb.apart
  · rw [hextents, hnext]
    exact hb.below

/-- A turn that changes nothing keeps the books. -/
theorem same (hsame : turn.after = turn.before) : Books start (earlier ++ [turn]) turn.after := by
  apply h.of_alike <;> rw [hsame]

/-- An allocation is booked. -/
theorem allocate (hcall : turn.call = .allocate size)
    (hop : turn.before.allocate size = .ok (address, turn.after)) :
    Books start (earlier ++ [turn]) turn.after := by
  have hb := h.booked
  obtain ⟨hfits, hstats, -⟩ := allocate_eq_ok hop
  obtain ⟨hsound, hextents, hbehind, -⟩ := h.sound.allocate hop
  obtain ⟨haddress, -⟩ := live_allocate hop
  obtain ⟨hcounted, hlive, -⟩ := h.counted.allocate h.sound hop
  have hnext := nextAddress_eq_add_span h.aligned hop
  have hend := hsound.below ⟨address, size⟩ (by
    rw [hextents]
    exact List.mem_append_right _ (List.mem_singleton_self _))
  change address + max size 1 ≤ turn.after.nextAddress at hend
  refine ⟨hsound, ?_, h.next_concat ?_, hcounted.liveBytes, ?_, hcounted.fits, ?_, ?_, ?_, ?_, ?_⟩
  · rw [hnext]
    exact Nat.dvd_add h.aligned (Nat.dvd_mul_left _ _)
  · rw [hnext, spent_allocate hcall hfits]
  · rw [hstats, hextents, List.length_append]
    change turn.before.stats.allocations + 1 = turn.before.stats.frees + (_ + 1)
    rw [hb.number, Nat.add_assoc]
  · rw [hstats]
    exact Nat.le_max_right _ _
  · rw [levels_concat, hlive, hstats]
    change IsGreatest _ (max turn.before.stats.peakBytes (turn.before.stats.liveBytes + size))
    rw [max_comm]
    exact hb.peak.insert _
  · rw [hextents]
    intro place hplace
    rcases List.mem_append.mp hplace with hold | hnew
    · exact hb.aligned place hold
    · rw [List.mem_singleton.mp hnew]
      change addressStep ∣ address
      rw [haddress]
      exact h.aligned
  · rw [hextents]
    refine List.pairwise_append.mpr ⟨hb.apart, List.pairwise_singleton _ _, ?_⟩
    intro place hplace other hother
    rw [List.mem_singleton.mp hother]
    exact (hbehind place hplace).apart
  · rw [hextents]
    intro place hplace
    rcases List.mem_append.mp hplace with hold | hnew
    · obtain ⟨hstart, hstop⟩ := hb.below place hold
      rw [hnext]
      exact ⟨Nat.lt_of_lt_of_le hstart (Nat.le_add_right _ _), Nat.le_trans hstop (Nat.le_add_right _ _)⟩
    · rw [List.mem_singleton.mp hnew]
      change address < turn.after.nextAddress ∧ address + size ≤ turn.after.nextAddress
      simp only [Address] at *
      omega

/-- What was taken back is booked. -/
theorem free {a : Allocation} (hfound : turn.before.allocationAt? address = some a)
    (hop : turn.before.free address = .ok turn.after) : Books start (earlier ++ [turn]) turn.after := by
  have hb := h.booked
  obtain ⟨⟨front, behind, hbefore, hafter⟩, hstats, -, -, hnext⟩ := free_eq_ok hfound hop
  obtain ⟨hcounted, hlive, -⟩ := h.counted.free hfound hop
  have hsub : turn.after.extents.Sublist turn.before.extents := by
    rw [hbefore, hafter]
    exact (List.sublist_cons_self _ _).append_left front
  have hpeak : turn.after.stats.peakBytes = turn.before.stats.peakBytes := by
    rw [hstats]
    rfl
  have hle : turn.after.stats.liveBytes ≤ turn.after.stats.peakBytes := by
    have hpast := hb.le_peak
    omega
  refine ⟨(h.sound.free hop).1, ?_, h.next_concat ?_, hcounted.liveBytes, ?_, hcounted.fits, hle, ?_, ?_, ?_, ?_⟩
  · rw [hnext]
    exact h.aligned
  · rw [hnext]
    exact Nat.le_add_right _ _
  · have hnumber := hb.number
    rw [hbefore, List.length_append, List.length_cons] at hnumber
    rw [hstats, hafter, List.length_append]
    change turn.before.stats.allocations = turn.before.stats.frees + 1 + _
    omega
  · rw [levels_concat, ← max_eq_right hle, hpeak]
    exact hb.peak.insert _
  · intro place hplace
    exact hb.aligned place (hsub.subset hplace)
  · exact hb.apart.sublist hsub
  · intro place hplace
    rw [hnext]
    exact hb.below place (hsub.subset hplace)

end Books

/-- No address is known at which no live allocation starts. -/
theorem allocationAt?_eq_none :
    device.allocationAt? address = none ↔ ∀ place ∈ device.extents, place.start ≠ address := by
  unfold allocationAt? extents
  rw [List.find?_eq_none, List.forall_mem_map]
  simp only [decide_eq_true_eq]
  rfl

/-- What is left of the address range is enough for the turn. -/
theorem Books.room (h : Books start earlier turn.before)
    (hroom : start.nextAddress + ((earlier ++ [turn]).map spent).sum < Word.limit) :
    turn.before.nextAddress + spent turn < Word.limit := by
  rw [spent_concat, ← Nat.add_assoc] at hroom
  exact Nat.lt_of_le_of_lt (Nat.add_le_add_right h.next _) hroom

/-- As long as the address range lasts, an allocation that fits ends where one more step is a word, or just at the last
multiple of the step. -/
theorem Books.stop_le (h : Books start earlier turn.before)
    (hroom : turn.before.nextAddress + spent turn < Word.limit) (hcall : turn.call = .allocate size)
    (hfits : size ≤ turn.before.freeBytes) :
    turn.before.nextAddress + max size 1 + addressStep ≤ Word.limit := by
  -- behind the next address and the span, which are multiples of the step, the limit leaves room for one step more
  have hdvd := h.aligned
  have hstep : addressStep ∣ Word.limit := by decide
  rw [spent_allocate hcall hfits] at hroom
  unfold span addressStep at *
  simp only [Address] at *
  omega

/-- A turn keeps the books. -/
theorem Books.step (h : Books start earlier turn.before) (hmove : Move turn) :
    Books start (earlier ++ [turn]) turn.after := by
  cases hmove with
  | allocates hcall hreply hop => exact h.allocate hcall hop
  | refuses hcall hreply hsame => exact h.same hsame
  | frees hcall hreply hfound hop => exact h.free hfound hop
  | unknown hcall hreply hsame => exact h.same hsame
  | writes hcall hreply hlocate hop =>
    obtain ⟨hextents, hnext⟩ := extents_copyIn hop
    obtain ⟨hstats, htotal, hreserved⟩ := counts_copyIn hop
    exact h.of_alike hextents hnext hstats htotal hreserved
  | reads hcall hreply hsame => exact h.same hsame
  | misses hrange hreply hsame => exact h.same hsame

/-- A call for memory is answered with an address, refused because the memory is not free, or broken off. -/
theorem Move.allocate_cases (hmove : Move turn) (hcall : turn.call = .allocate size) :
    (size ≤ turn.before.freeBytes ∧ turn.before.nextAddress + max size 1 + addressStep < Word.limit ∧
      ∃ address, turn.reply = .ok (.address address)) ∨
    (turn.before.freeBytes < size ∧ ∃ fault, turn.reply = .error (.error fault)) ∨
    size ≤ turn.before.freeBytes ∧ Word.limit ≤ turn.before.nextAddress + max size 1 + addressStep ∧
      turn.reply = .error (.crash addressOverflow) := by
  cases hmove with
  | allocates hother hreply hop =>
    obtain rfl := HostCall.allocate.inj (hcall.symm.trans hother)
    obtain ⟨hfits, -, -, -, hword, -⟩ := allocate_eq_ok hop
    exact Or.inl ⟨hfits, hword, _, hreply⟩
  | refuses hother hreply hsame hop =>
    obtain rfl := HostCall.allocate.inj (hcall.symm.trans hother)
    obtain ⟨hlt, rfl⟩ | ⟨hfits, rfl, hlimit⟩ := allocate_eq_error hop
    · exact Or.inr (Or.inl ⟨hlt, _, hreply⟩)
    · exact Or.inr (Or.inr ⟨hfits, hlimit, hreply⟩)
  | frees hother => cases hcall.symm.trans hother
  | unknown hother => cases hcall.symm.trans hother
  | writes hother => cases hcall.symm.trans hother
  | reads hother => cases hcall.symm.trans hother
  | misses hrange => simp [hcall, HostCall.range?] at hrange

/-- What gives memory back is carried out if a live allocation starts there, and refused otherwise. -/
theorem Move.free_cases (hmove : Move turn) (hcall : turn.call = .free address) :
    (∃ a, turn.before.allocationAt? address = some a) ∧ turn.reply = .ok .done ∨
    turn.before.allocationAt? address = none ∧ ∃ fault, turn.reply = .error (.error fault) := by
  cases hmove with
  | frees hother hreply hfound =>
    obtain rfl := HostCall.free.inj (hcall.symm.trans hother)
    exact Or.inl ⟨⟨_, hfound⟩, hreply⟩
  | unknown hother hreply hsame hnone =>
    obtain rfl := HostCall.free.inj (hcall.symm.trans hother)
    exact Or.inr ⟨hnone, _, hreply⟩
  | allocates hother => cases hcall.symm.trans hother
  | refuses hother => cases hcall.symm.trans hother
  | writes hother => cases hcall.symm.trans hother
  | reads hother => cases hcall.symm.trans hother
  | misses hrange => simp [hcall, HostCall.range?] at hrange

/-- A turn answers as it may. -/
theorem Move.settles (hmove : Move turn) : Settles turn := by
  refine ⟨?allocate, ?breaks, ?free, fun halt herror => hmove.same herror, ?crash⟩
  case allocate =>
    intro size hcall
    change _ ↔ turn.before.freeBytes < size
    obtain ⟨hfits, -, _, hreply⟩ | ⟨hlt, fault, hreply⟩ | ⟨hfits, -, hreply⟩ := hmove.allocate_cases hcall
    · simp [hreply, hfits]
    · simp [hreply, hlt]
    · simp [hreply, hfits]
  case breaks =>
    intro size hcall hfree
    change size ≤ turn.before.freeBytes at hfree
    obtain ⟨-, hword, _, hreply⟩ | ⟨hlt, -⟩ | ⟨-, hlimit, hreply⟩ := hmove.allocate_cases hcall
    · simp [hreply, hword]
    · exact absurd hfree (Nat.not_le.mpr hlt)
    · simp [hreply, hlimit]
  case free =>
    intro address hcall
    rw [← allocationAt?_eq_none]
    obtain ⟨⟨a, hfound⟩, hreply⟩ | ⟨hnone, fault, hreply⟩ := hmove.free_cases hcall
    · simp [hreply, hfound]
    · simp [hreply, hnone]
  case crash =>
    intro reason hcrash address hcall
    obtain ⟨-, hreply⟩ | ⟨-, fault, hreply⟩ := hmove.free_cases hcall
    · cases hreply.symm.trans hcrash
    · cases hreply.symm.trans hcrash

/-- Only an allocation hands out an address: the next one, which then lies behind. -/
theorem Move.handedOut (hmove : Move turn) :
    turn.before.nextAddress ≤ turn.after.nextAddress ∧ ∀ address, handedOut? turn = some address →
      address = turn.before.nextAddress ∧ address < turn.after.nextAddress := by
  cases hmove with
  | @allocates size address hcall hreply hop =>
    obtain ⟨haddress, -⟩ := live_allocate hop
    have hend := (nextAddress_allocate hop).1
    have hlt : address < turn.after.nextAddress := by
      simp only [Address] at *
      omega
    refine ⟨by rw [← haddress]; exact Nat.le_of_lt hlt, ?_⟩
    intro other hother
    rw [handedOut?, hreply] at hother
    rw [← Option.some.inj hother]
    exact ⟨haddress, hlt⟩
  | frees hcall hreply hfound hop =>
    exact ⟨Nat.le_of_eq (free_eq_ok hfound hop).2.2.2.2.symm, by simp [handedOut?, hreply]⟩
  | writes hcall hreply hlocate hop =>
    exact ⟨Nat.le_of_eq (extents_copyIn hop).2.symm, by simp [handedOut?, hreply]⟩
  | refuses hcall hreply hsame => exact ⟨by rw [hsame], by simp [handedOut?, hreply]⟩
  | unknown hcall hreply hsame => exact ⟨by rw [hsame], by simp [handedOut?, hreply]⟩
  | reads hcall hreply hsame => exact ⟨by rw [hsame], by simp [handedOut?, hreply]⟩
  | misses hrange hreply hsame => exact ⟨by rw [hsame], by simp [handedOut?, hreply]⟩

/-- The addresses handed out by some turns differ, and lie below the next address. -/
structure Distinct (earlier : List HostTurn) (device : HostDevice) : Prop where
  /-- No address was handed out twice. -/
  nodup : (earlier.filterMap handedOut?).Nodup
  /-- Each address lies below the next one. -/
  below : ∀ address ∈ earlier.filterMap handedOut?, address < device.nextAddress

/-- A turn hands out no address that was handed out before. -/
theorem Distinct.step (h : Distinct earlier turn.before) (hmove : Move turn) :
    Distinct (earlier ++ [turn]) turn.after := by
  obtain ⟨hgrows, hnew⟩ := hmove.handedOut
  have hold : ∀ address ∈ earlier.filterMap handedOut?, address < turn.after.nextAddress :=
    fun address haddress => Nat.lt_of_lt_of_le (h.below address haddress) hgrows
  cases hhanded : handedOut? turn with
  | none =>
    have hsame : (earlier ++ [turn]).filterMap handedOut? = earlier.filterMap handedOut? := by
      simp [List.filterMap_append, hhanded]
    exact ⟨by rw [hsame]; exact h.nodup, by rw [hsame]; exact hold⟩
  | some address =>
    have hsplit : (earlier ++ [turn]).filterMap handedOut? = earlier.filterMap handedOut? ++ [address] := by
      simp [List.filterMap_append, hhanded]
    obtain ⟨haddress, hlt⟩ := hnew address hhanded
    constructor
    · rw [hsplit]
      refine List.nodup_append'.mpr ⟨h.nodup, List.nodup_singleton _, ?_⟩
      intro other hother hself
      have hbelow := h.below other hother
      rw [List.mem_singleton.mp hself, haddress] at hbelow
      exact Nat.lt_irrefl _ hbelow
    · rw [hsplit]
      intro other hother
      rcases List.mem_append.mp hother with hpast | hself
      · exact hold other hpast
      · rw [List.mem_singleton.mp hself]
        exact hlt

/-- A device that was set up and not used yet. -/
def IsNew (device : HostDevice) : Prop :=
  ∃ total reserved streamLimit ordinal label, device = setUp total reserved streamLimit ordinal label

/-- The books of a new device are empty, and agree with it. -/
theorem IsNew.books (h : start.IsNew) : Books start [] start := by
  obtain ⟨total, reserved, streamLimit, ordinal, label, rfl⟩ := h
  have hsound : (setUp total reserved streamLimit ordinal label).Sound :=
    ((Reachable.fresh total 0 streamLimit ordinal label).withReserved reserved).sound
  refine ⟨hsound, (by decide : addressStep ∣ 0x10000000), Nat.le_refl _, rfl, rfl, ?_, Nat.le_refl _,
    ⟨⟨[], List.prefix_rfl, rfl⟩, ?_⟩, ?_, List.Pairwise.nil, ?_⟩
  · change 0 + min reserved total ≤ total
    omega
  · rintro bytes ⟨past, hpast, rfl⟩
    rw [List.prefix_nil.mp hpast]
    exact Nat.le_refl _
  · intro place hplace
    cases hplace
  · intro place hplace
    cases hplace

/-- In every state that memory calls lead a new device to, the counters agree with the live allocations, which
lie apart at multiples of the address step below the next address. Each call for memory is refused exactly if more
is asked for than is free, each call that gives memory back exactly if nothing live starts there, and a failed
call changes nothing; no address is handed out twice. If what is allocated, in whole steps, stays within the address
range, then memory that is free is handed out, with one exception: an allocation whose end lies one step below the
end of the address range is broken off. -/
theorem history_booked (hnew : start.IsNew) (calls : List HostCall) :
    (∀ earlier, earlier <+: start.history calls → Booked start earlier (Turn.reached start earlier)) ∧
    (∀ turn ∈ start.history calls, Settles turn) ∧
    ((start.history calls).filterMap handedOut?).Nodup ∧
    (((start.history calls).map spent).sum < Word.limit - 2 ^ 28 → ∀ turn ∈ start.history calls,
      ∀ size, turn.call = .allocate size → size ≤ turn.before.memoryInfo.free →
        ((∃ address, turn.reply = .ok (.address address)) ↔
          turn.before.nextAddress + max size 1 ≠ Word.limit - addressStep)) := by
  have hstart : start.nextAddress = 2 ^ 28 := by
    obtain ⟨total, reserved, streamLimit, ordinal, label, rfl⟩ := hnew
    rfl
  have hbooks : ∀ {earlier}, earlier <+: start.history calls →
      Books start earlier (Turn.reached start earlier) := by
    intro earlier hprefix
    refine Turn.history_induction (motive := Books start) hnew.books ?_ hprefix
    intro earlier turn _ hanswer hkept
    exact hkept.step (move hanswer)
  have hsettles : ∀ turn ∈ start.history calls, Settles turn := by
    intro turn hturn
    obtain ⟨earlier, later, hsplit⟩ := List.append_of_mem hturn
    exact (move (Turn.eq_of_history hsplit).2).settles
  refine ⟨fun earlier hprefix => (hbooks hprefix).booked, hsettles, ?distinct, ?range⟩
  case distinct =>
    have hdistinct : Distinct (start.history calls) (Turn.reached start (start.history calls)) := by
      refine Turn.history_induction (motive := Distinct) ?_ ?_ List.prefix_rfl
      · refine ⟨List.nodup_nil, ?_⟩
        intro address haddress
        cases haddress
      · intro earlier turn _ hanswer hkept
        exact hkept.step (move hanswer)
    exact hdistinct.nodup
  case range =>
    intro hroom turn hturn size hcall hfree
    obtain ⟨earlier, later, hsplit⟩ := List.append_of_mem hturn
    have hkept : Books start earlier (Turn.reached start earlier) := hbooks ⟨turn :: later, hsplit.symm⟩
    rw [← (Turn.eq_of_history hsplit).1] at hkept
    have hlast : start.nextAddress + ((earlier ++ [turn]).map spent).sum < Word.limit := by
      have hparts : start.history calls = (earlier ++ [turn]) ++ later := by simp [hsplit]
      rw [hparts, List.map_append, List.sum_append] at hroom
      have hsum : 2 ^ 28 + ((earlier ++ [turn]).map spent).sum < Word.limit := by omega
      rwa [hstart]
    have hstop := hkept.stop_le (hkept.room hlast) hcall hfree
    have hstep : addressStep ≤ Word.limit := by decide
    rw [((hsettles turn hturn).breaks size hcall hfree).2]
    simp only [Address] at *
    omega

/-- A device of a thousand bytes, a hundred of which somebody else uses. -/
def thousand : HostDevice := setUp 1000 100 8 0 "host-simulated"

/-- Calls of every kind, with a free inside an allocation, a second free and two requests that do not fit. -/
def mixedCalls : List HostCall :=
  [.allocate 300, .allocate 0, .allocate 601, .free 0x10000001, .copyIn 0x10000000 [1, 2], .free 0x10000000,
    .free 0x10000000, .allocate 900, .copyOut 0x10000000 1, .allocate 1]

/-- The calls take seven steps of the address range; the peak is what the last allocation that fits brings. -/
theorem history_booked_mixedCalls :
    thousand.IsNew ∧ ((thousand.history mixedCalls).map spent).sum = 7 * addressStep ∧
      (Turn.reached thousand (thousand.history mixedCalls)).stats = ⟨3, 1, 900, 900⟩ ∧
      Booked thousand (thousand.history mixedCalls) (Turn.reached thousand (thousand.history mixedCalls)) ∧
      (∀ turn ∈ thousand.history mixedCalls, Settles turn) ∧
      (thousand.history mixedCalls).filterMap handedOut? = [0x10000000, 0x10000200, 0x10000300] ∧
      ((thousand.history mixedCalls).filterMap handedOut?).Nodup ∧
      ∀ turn ∈ thousand.history mixedCalls, ∀ size, turn.call = .allocate size → size ≤ turn.before.memoryInfo.free →
        ((∃ address, turn.reply = .ok (.address address)) ↔
          turn.before.nextAddress + max size 1 ≠ Word.limit - addressStep) := by
  have hnew : thousand.IsNew := ⟨1000, 100, 8, 0, "host-simulated", rfl⟩
  have hspent : ((thousand.history mixedCalls).map spent).sum = 7 * addressStep := by decide
  obtain ⟨hbooked, hsettles, hdistinct, hrange⟩ := history_booked hnew mixedCalls
  refine ⟨hnew, hspent, by decide, hbooked _ List.prefix_rfl, hsettles, by decide, hdistinct, ?_⟩
  exact hrange (by rw [hspent]; decide)

/-- A device with as many bytes as the greatest word says. -/
def wholeRange : HostDevice := setUp (2 ^ 64 - 1) 0 8 0 "host-simulated"

/-- One allocation takes all of the address range that the bound leaves. It fits into the free bytes, and the address
behind it is a multiple of the step and a word, but the call is broken off. -/
theorem last_step_breaks_off :
    wholeRange.IsNew ∧ 2 ^ 64 - 2 ^ 28 - 256 ≤ wholeRange.memoryInfo.free ∧
      ((wholeRange.history [.allocate (2 ^ 64 - 2 ^ 28 - 256)]).map spent).sum < Word.limit - 2 ^ 28 ∧
      Word.alignUp? (wholeRange.nextAddress + (2 ^ 64 - 2 ^ 28 - 256)) addressStep = some (2 ^ 64 - 256) ∧
      (wholeRange.answer (.allocate (2 ^ 64 - 2 ^ 28 - 256))).1 = .error (.crash addressOverflow) := by
  exact ⟨⟨2 ^ 64 - 1, 0, 8, 0, "host-simulated", rfl⟩, by decide, by decide, by decide, by decide⟩

end HostDevice
end MemoryPlan
