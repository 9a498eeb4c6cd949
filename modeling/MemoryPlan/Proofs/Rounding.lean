import Mathlib.Algebra.Ring.Nat
import MemoryPlan.Alignment
/-!
# Rounding to an alignment

Adding one less than a power of two and clearing the low bits yields the least multiple at or above an
offset, as long as the padded offset fits a word. Placement and packing rest on the facts stated here: the
rounded offset is a multiple, it is not below the offset, no smaller multiple is, and a multiple in front of
the offset is left as it is.
-/

namespace MemoryPlan

namespace Word

/-- The test for one bit finds the powers of two. -/
theorem isPowerOfTwo_iff {n : Nat} : isPowerOfTwo n = true ↔ ∃ k, n = 2 ^ k := by
  have hp := Nat.ne_zero_and_sub_one_eq_zero_iff_isPowerOfTwo (n := n)
  rw [Nat.isPowerOfTwo] at hp
  rw [← hp]
  simp [isPowerOfTwo]

/-- Clearing the low bits of a word rounds it down to a multiple of a power of two. -/
theorem toNat_clearLow (word : BitVec 64) {k : Nat} :
    (word &&& ~~~BitVec.ofNat 64 (2 ^ k - 1)).toNat = word.toNat / 2 ^ k * 2 ^ k := by
  apply Nat.eq_of_testBit_eq
  intro i
  rw [Nat.testBit_mul_two_pow, Nat.testBit_div_two_pow, BitVec.testBit_toNat, BitVec.getLsbD_and,
    BitVec.getLsbD_not, BitVec.getLsbD_ofNat, Nat.testBit_two_pow_sub_one]
  by_cases hw : i < 64
  · by_cases hk : k ≤ i
    · have hc : ¬i < k := by omega
      simp [hw, hk, hc, BitVec.testBit_toNat]
    · have hc : i < k := by omega
      simp [hw, hk, hc]
  · have hb : word.getLsbD i = false := BitVec.getLsbD_of_ge word i (by omega)
    by_cases hk : k ≤ i
    · simp [hb, hk, BitVec.testBit_toNat]
    · simp [hb, hk]

/-- Within the word range, the add-and-mask step is integer rounding. -/
theorem alignUp_eq {offset alignment : Nat} (hp : isPowerOfTwo alignment = true)
    (hr : offset + (alignment - 1) < limit) :
    alignUp offset alignment = (offset + (alignment - 1)) / alignment * alignment := by
  obtain ⟨k, rfl⟩ := isPowerOfTwo_iff.mp hp
  unfold limit UInt64.size at hr
  have hpos : 0 < 2 ^ k := Nat.two_pow_pos k
  have hlow : UInt64.ofNat (2 ^ k) - 1 = UInt64.ofNat (2 ^ k - 1) := (UInt64.ofNat_sub hpos).symm
  rw [alignUp, ofNat_padded hpos, hlow]
  change (BitVec.ofNat 64 (offset + (2 ^ k - 1)) &&& ~~~BitVec.ofNat 64 (2 ^ k - 1)).toNat = _
  rw [toNat_clearLow, BitVec.toNat_ofNat, Nat.mod_eq_of_lt hr]

end Word

namespace Alignment

variable {alignment : Alignment} {offset other : Nat}

theorem bytes_pos (alignment : Alignment) : 0 < alignment.bytes := by
  obtain ⟨k, hk⟩ := Word.isPowerOfTwo_iff.mp alignment.powerOfTwo
  rw [hk]
  exact Nat.two_pow_pos k

/-- The word range is a whole number of alignments. -/
theorem dvd_limit (alignment : Alignment) : alignment.bytes ∣ Word.limit := by
  obtain ⟨k, hk⟩ := Word.isPowerOfTwo_iff.mp alignment.powerOfTwo
  have hfits := alignment.fits
  have hlimit : Word.limit = 2 ^ 64 := rfl
  rw [hk, hlimit] at hfits ⊢
  exact Nat.pow_dvd_pow 2 (Nat.le_of_lt ((Nat.pow_lt_pow_iff_right (by decide)).mp hfits))

/-- A multiple of the alignment below the end of the word range lies a whole alignment below it. -/
theorem add_bytes_le_limit (hd : alignment.bytes ∣ offset) (h : offset < Word.limit) :
    offset + alignment.bytes ≤ Word.limit := by
  by_contra hbeyond
  have hback : Word.limit ≤ offset := Nat.le_of_lt_add_of_dvd (Nat.not_le.mp hbeyond) alignment.dvd_limit hd
  omega

/-- The least multiple of the alignment at or above a number, whatever the word range. -/
def ceil (alignment : Alignment) (n : Nat) : Nat :=
  (n + (alignment.bytes - 1)) / alignment.bytes * alignment.bytes

theorem dvd_ceil : alignment.bytes ∣ alignment.ceil offset := Nat.dvd_mul_left _ _

theorem le_ceil : offset ≤ alignment.ceil offset := by
  have hb := alignment.bytes_pos
  have hm := Nat.mod_lt (offset + (alignment.bytes - 1)) hb
  have hd := Nat.div_add_mod' (offset + (alignment.bytes - 1)) alignment.bytes
  unfold ceil
  omega

/-- No multiple of the alignment lies between a number and the multiple found for it. -/
theorem ceil_le (hd : alignment.bytes ∣ other) (ho : offset ≤ other) : alignment.ceil offset ≤ other := by
  have hb := alignment.bytes_pos
  obtain ⟨c, rfl⟩ := hd
  unfold ceil
  rw [Nat.mul_comm alignment.bytes c]
  apply Nat.mul_le_mul_right
  have hlt : (offset + (alignment.bytes - 1)) / alignment.bytes < c + 1 := by
    rw [Nat.div_lt_iff_lt_mul hb, Nat.add_mul, Nat.one_mul, Nat.mul_comm c]
    omega
  omega

/-- A multiple of the alignment in front of a number stays as it is. -/
theorem ceil_add (hd : alignment.bytes ∣ other) :
    alignment.ceil (other + offset) = other + alignment.ceil offset := by
  obtain ⟨c, rfl⟩ := hd
  unfold ceil
  rw [Nat.add_assoc, Nat.mul_add_div alignment.bytes_pos, Nat.add_mul, Nat.mul_comm c]

/-- Within the word range, rounding up finds the least multiple. -/
theorem up_eq (h : offset + alignment.bytes ≤ Word.limit) : alignment.up offset = alignment.ceil offset := by
  have hb := alignment.bytes_pos
  exact Word.alignUp_eq alignment.powerOfTwo (by omega)

/-- With room for one alignment, the rounded offset is a multiple. -/
theorem dvd_up (h : offset + alignment.bytes ≤ Word.limit) : alignment.bytes ∣ alignment.up offset := by
  rw [up_eq h]
  exact dvd_ceil

/-- With room for one alignment, the rounded offset is not below the offset. -/
theorem le_up (h : offset + alignment.bytes ≤ Word.limit) : offset ≤ alignment.up offset := by
  rw [up_eq h]
  exact le_ceil

/-- No multiple of the alignment lies between an offset and the rounded offset. -/
theorem up_le (h : offset + alignment.bytes ≤ Word.limit) (hd : alignment.bytes ∣ other)
    (ho : offset ≤ other) : alignment.up offset ≤ other := by
  rw [up_eq h]
  exact ceil_le hd ho

/-- A multiple of the alignment in front of an offset stays as it is. -/
theorem up_add (h : other + offset + alignment.bytes ≤ Word.limit) (hd : alignment.bytes ∣ other) :
    alignment.up (other + offset) = other + alignment.up offset := by
  rw [up_eq h, up_eq (by omega), ceil_add hd]

/-- Checked rounding yields what rounding yields, exactly with room for one alignment behind the
offset. -/
theorem up?_eq_some {rounded : Nat} :
    alignment.up? offset = some rounded ↔
      offset + alignment.bytes ≤ Word.limit ∧ rounded = alignment.up offset := by
  have hb := alignment.bytes_pos
  unfold up? up
  rw [Word.alignUp?_eq_some hb]
  constructor
  · rintro ⟨hr, he⟩
    exact ⟨by omega, he⟩
  · rintro ⟨hr, he⟩
    exact ⟨by omega, he⟩

end Alignment
end MemoryPlan
