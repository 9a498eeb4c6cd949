import MemoryPlan.Proofs.Device.Calls
import MemoryPlan.Proofs.Device.Host
/-!
# The bounds test of a host device

A copy first locates its range: it takes the last allocation at or below the address, and compares the end of
the range, counted from the base of that allocation, with its size. The end is the sum of two words and may be none.
The copy then breaks off (`HostDevice.Overflows`) where it ought to name an address that is not valid. In all other
cases it succeeds inside one live allocation, and fails without an effect outside.
-/

namespace MemoryPlan.HostDevice

variable {device : HostDevice} {address : Address} {length : Nat}

/-- The end of a range, counted from the base of the last allocation at or below its address, is no word. -/
def Overflows (device : HostDevice) (address : Address) (length : Nat) : Prop :=
  ∃ a, device.below? address = some a ∧ Word.limit ≤ address - a.base + length

/-- A range of words ends at a word. -/
theorem not_overflows (hword : address + length < Word.limit) : ¬device.Overflows address length := by
  rintro ⟨a, -, hover⟩
  simp only [Address] at *
  omega

/-- Locating a range breaks off exactly where its end is no word. -/
theorem locate_crash_iff :
    device.locate address length = .error (.crash addressOverflow) ↔ device.Overflows address length := by
  unfold locate Overflows
  cases device.below? address with
  | none => simp
  | some a =>
    simp only [Option.some.injEq, exists_eq_left', ← Word.add?_eq_none]
    cases Word.add? (address - a.base) length with
    | none => simp
    | some stop =>
      dsimp only
      split <;> simp

/-- A range that is not located names an address that is not valid, unless its end is no word. -/
theorem locate_error_cases {halt : Halt DeviceFault} (hlocate : device.locate address length = .error halt) :
    halt = .crash addressOverflow ∨ ∃ cause, halt = .error (.invalidAddress cause) := by
  unfold locate at hlocate
  split at hlocate
  · exact Or.inr ⟨_, (Except.error.inj hlocate).symm⟩
  · split at hlocate
    · exact Or.inl (Except.error.inj hlocate).symm
    · split at hlocate
      · exact Or.inr ⟨_, (Except.error.inj hlocate).symm⟩
      · cases hlocate

/-- The bytes of a located range are bytes of the allocation. -/
theorem stop_le_of_locate {a : Allocation} (hlocate : device.locate address length = .ok a) :
    address - a.base + length ≤ a.size := by
  obtain ⟨-, hstart, hstop⟩ := covers_of_locate hlocate
  change a.base ≤ address at hstart
  change address + length ≤ a.base + a.size at hstop
  simp only [Address] at *
  omega

/-- Exactly the ranges inside one live allocation are located, also those without bytes at its end. -/
theorem Sound.exists_locate_iff (hs : device.Sound) :
    (∃ a, device.locate address length = .ok a) ↔ ∃ place ∈ device.extents, place.Covers address length := by
  constructor
  · rintro ⟨a, hlocate⟩
    obtain ⟨ha, hcovers⟩ := covers_of_locate hlocate
    exact ⟨a.place, mem_extents.mpr ⟨a, ha, rfl⟩, hcovers⟩
  · rintro ⟨place, hplace, hcovers⟩
    obtain ⟨a, ha, rfl⟩ := mem_extents.mp hplace
    obtain ⟨b, hlocate, -⟩ := hs.locate_eq ha hcovers
    exact ⟨b, hlocate⟩

/-- No allocation starts before the first address. -/
theorem Reachable.firstAddress_le (h : device.Reachable) :
    0x10000000 ≤ device.nextAddress ∧ ∀ place ∈ device.extents, 0x10000000 ≤ place.start := by
  induction h with
  | fresh total reserved streamLimit ordinal label =>
    refine ⟨Nat.le_refl _, ?_⟩
    intro place hplace
    cases hplace
  | withReserved h bytes ih => exact ih
  | allocate h hop ih =>
    obtain ⟨hbefore, hplaces⟩ := ih
    have hstart := (live_allocate hop).1
    have hbehind := (nextAddress_allocate hop).1
    constructor
    · simp only [Address] at *
      omega
    · rw [(h.sound.allocate hop).2.1]
      intro place hplace
      rcases List.mem_append.mp hplace with hold | hnew
      · exact hplaces place hold
      · rw [List.mem_singleton.mp hnew, hstart]
        exact hbefore
  | free h hop ih =>
    obtain ⟨hsub, hnext⟩ := free_keeps hop
    refine ⟨hnext ▸ ih.1, fun place hplace => ih.2 place ?_⟩
    exact (hsub.map Allocation.place).subset hplace
  | copyIn h hop ih =>
    obtain ⟨hextents, hnext⟩ := extents_copyIn hop
    rw [hextents, hnext]
    exact ih

/-- On every reachable device, whatever range a copy names: it succeeds exactly inside one live allocation, and takes
bytes of that allocation only. A copy that fails changes nothing and names an address that is not valid, but for one
case, where it is broken off: exactly where the end of its range overflows. No range of at most `0x10000000` bytes
does that. -/
theorem copies_are_bounded (h : device.Reachable) (call : HostCall)
    (hrange : call.range? = some (address, length)) :
    ((∃ reply, (device.answer call).1 = .ok reply) ↔ ∃ place ∈ device.extents, place.Covers address length) ∧
      (∀ a, device.locate address length = .ok a → a.base ≤ address ∧ address - a.base + length ≤ a.size) ∧
      (∀ halt, (device.answer call).1 = .error halt → (device.answer call).2 = device ∧
        (halt = .crash addressOverflow ∨ ∃ cause, halt = .error (.invalidAddress cause))) ∧
      ((device.answer call).1 = .error (.crash addressOverflow) ↔ device.Overflows address length) ∧
      (address < Word.limit → device.Overflows address length → 0x10000000 < length) := by
  have hmove : Move ⟨device, call, (device.answer call).1, (device.answer call).2⟩ := move rfl
  have hlocated := hmove.located hrange
  dsimp only at hlocated
  refine ⟨?_, ?_, ?_, ?_, ?_⟩
  · rw [← h.sound.exists_locate_iff]
    obtain ⟨a, reply, hlocate, hreply⟩ | ⟨halt, hlocate, hreply, -⟩ := hlocated <;> simp [hlocate, hreply]
  · intro a hlocate
    exact ⟨(covers_of_locate hlocate).2.1, stop_le_of_locate hlocate⟩
  · intro halt herror
    obtain ⟨a, reply, -, hreply⟩ | ⟨other, hlocate, hreply, hsame⟩ := hlocated
    · cases hreply.symm.trans herror
    · obtain rfl := Except.error.inj (hreply.symm.trans herror)
      exact ⟨hsame, locate_error_cases hlocate⟩
  · rw [← locate_crash_iff]
    obtain ⟨a, reply, hlocate, hreply⟩ | ⟨halt, hlocate, hreply, -⟩ := hlocated <;> simp [hlocate, hreply]
  · rintro hword ⟨a, ha, hover⟩
    obtain ⟨hlive, hle⟩ := mem_of_below? ha
    have hbase := h.firstAddress_le.2 a.place (mem_extents.mpr ⟨a, hlive, rfl⟩)
    change a.base ≤ address at hle
    change 0x10000000 ≤ a.base at hbase
    simp only [Address] at *
    omega

/-- A device of a mebibyte with one allocation of 16 bytes. -/
def sixteen : HostDevice :=
  { total := 1048576, recent := [⟨0x10000000, 16, []⟩], nextAddress := 0x10000100, stats := ⟨1, 0, 16, 16⟩ }

theorem reachable_sixteen : sixteen.Reachable :=
  .allocate (.fresh 1048576 0 8 0 "host-simulated")
    (show HostDevice.allocate _ 16 = .ok (0x10000000, sixteen) by decide)

/-- A read at the last address is broken off, although the address and the length are words: the range does not lie
in the allocation, and no fault names the address. -/
theorem far_read_breaks_off :
    sixteen.Reachable ∧ 18446744073709551615 < Word.limit ∧ 268435457 < 2 ^ 63 ∧
      (sixteen.answer (.copyOut 18446744073709551615 268435457)).1 = .error (.crash addressOverflow) := by
  refine ⟨reachable_sixteen, by decide, by decide, ?_⟩
  decide

/-- One byte less is refused at the same address, and the last byte of the allocation is read. -/
theorem copies_are_bounded_sixteen :
    (sixteen.answer (.copyOut 18446744073709551615 268435456)).1 ≠ .error (.crash addressOverflow) ∧
      ∃ reply, (sixteen.answer (.copyOut 0x1000000f 1)).1 = .ok reply := by
  constructor
  · intro hcrash
    have hfar := copies_are_bounded reachable_sixteen (.copyOut 18446744073709551615 268435456) rfl
    exact absurd (hfar.2.2.2.2 (by decide) (hfar.2.2.2.1.mp hcrash)) (by decide)
  · exact (copies_are_bounded reachable_sixteen (.copyOut 0x1000000f 1) rfl).1.mpr
      ⟨⟨0x10000000, 16⟩, by decide, by decide, by decide⟩

end MemoryPlan.HostDevice
