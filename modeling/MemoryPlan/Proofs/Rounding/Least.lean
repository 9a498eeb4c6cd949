import Mathlib.Order.Bounds.Basic
import MemoryPlan.Proofs.Rounding
/-!
# The least aligned bound

For every power of two that is a word, the checked add-and-mask step finds the least multiple at or above an
offset, exactly as long as that multiple is a word. The word range is a whole number of alignments, so that a
multiple below its end leaves room for one more: this is why the padded offset fits exactly if the multiple does.
Without the check the whole alignment is added first, and this sum leaves the word range one multiple earlier.
The laws of rounding (a multiple stays, the order of offsets is kept, a multiple in front is only added) hold for
`Alignment.ceil` without any range, and pass over to words by this one boundary.
-/

namespace MemoryPlan

namespace Alignment

variable {alignment : Alignment} {offset other rounded : Nat}

/-- The alignment of two to a power that fits a word. -/
def ofExponent (k : Nat) (hk : k ≤ 63) : Alignment where
  bytes := 2 ^ k
  powerOfTwo := Word.isPowerOfTwo_iff.mpr ⟨k, rfl⟩
  fits := Nat.pow_lt_pow_right (by decide) (Nat.lt_succ_of_le hk)

/-- The ceiling is the least multiple of the alignment at or above a number. -/
theorem isLeast_ceil (alignment : Alignment) (offset : Nat) :
    IsLeast {m | alignment.bytes ∣ m ∧ offset ≤ m} (alignment.ceil offset) :=
  ⟨⟨dvd_ceil, le_ceil⟩, fun _ hm => ceil_le hm.1 hm.2⟩

theorem ceil_mono (h : offset ≤ other) : alignment.ceil offset ≤ alignment.ceil other :=
  ceil_le dvd_ceil (Nat.le_trans h le_ceil)

/-- A multiple of the alignment is its own ceiling. -/
theorem ceil_of_dvd (hd : alignment.bytes ∣ offset) : alignment.ceil offset = offset :=
  Nat.le_antisymm (ceil_le hd (Nat.le_refl offset)) le_ceil

/-- The last number of the word range that leaves room for a whole alignment is a multiple. -/
theorem dvd_last (alignment : Alignment) : alignment.bytes ∣ Word.limit - alignment.bytes :=
  Nat.dvd_sub alignment.dvd_limit (Nat.dvd_refl _)

/-- The least multiple is a word exactly if the word range has room for one alignment behind the offset. -/
theorem ceil_lt_limit_iff : alignment.ceil offset < Word.limit ↔ offset + alignment.bytes ≤ Word.limit := by
  have hb := alignment.bytes_pos
  have hfits := alignment.fits
  constructor
  · intro h
    have hle : offset ≤ alignment.ceil offset := le_ceil
    have hroom : alignment.ceil offset + alignment.bytes ≤ Word.limit := add_bytes_le_limit dvd_ceil h
    omega
  · intro h
    have hle : alignment.ceil offset ≤ Word.limit - alignment.bytes := ceil_le alignment.dvd_last (by omega)
    omega

/-- Checked rounding finds the least multiple if this is a word, and nothing otherwise. -/
theorem up?_eq (alignment : Alignment) (offset : Nat) : alignment.up? offset =
    if alignment.ceil offset < Word.limit then some (alignment.ceil offset) else none := by
  split
  · next hword =>
    have hroom := ceil_lt_limit_iff.mp hword
    exact up?_eq_some.mpr ⟨hroom, (up_eq hroom).symm⟩
  · next hover =>
    refine Option.eq_none_iff_forall_ne_some.mpr fun r hr => ?_
    exact hover (ceil_lt_limit_iff.mpr (up?_eq_some.mp hr).1)

/-- Checked rounding yields the ceiling as far as this is a word. -/
theorem up?_eq_some_iff_ceil :
    alignment.up? offset = some rounded ↔ rounded < Word.limit ∧ rounded = alignment.ceil offset := by
  rw [up?_eq]
  constructor
  · intro h
    split at h
    · next hword => exact ⟨Option.some.inj h ▸ hword, (Option.some.inj h).symm⟩
    · cases h
  · rintro ⟨hword, rfl⟩
    exact if_pos hword

/-- What was rounded stays as it is. -/
theorem up?_rounded (h : alignment.up? offset = some rounded) : alignment.up? rounded = some rounded := by
  obtain ⟨hword, rfl⟩ := up?_eq_some_iff_ceil.mp h
  exact up?_eq_some_iff_ceil.mpr ⟨hword, (ceil_of_dvd dvd_ceil).symm⟩

/-- A lower offset is rounded as well, and not higher. -/
theorem up?_mono (hle : offset ≤ other) (h : alignment.up? other = some rounded) :
    ∃ lower, alignment.up? offset = some lower ∧ lower ≤ rounded := by
  obtain ⟨hword, rfl⟩ := up?_eq_some_iff_ceil.mp h
  have hmono : alignment.ceil offset ≤ alignment.ceil other := ceil_mono hle
  exact ⟨_, up?_eq_some_iff_ceil.mpr ⟨Nat.lt_of_le_of_lt hmono hword, rfl⟩, hmono⟩

/-- The last multiple below the end of the word range stays as it is. -/
theorem up?_last (alignment : Alignment) :
    alignment.up? (Word.limit - alignment.bytes) = some (Word.limit - alignment.bytes) := by
  have hb := alignment.bytes_pos
  have hfits := alignment.fits
  exact up?_eq_some_iff_ceil.mpr ⟨by omega, (ceil_of_dvd alignment.dvd_last).symm⟩

/-- Of all offsets that can be rounded, only the last multiple is refused if the whole alignment is added first: the
padded offset is still a word there, but the offset and the alignment add up to the limit itself. -/
theorem upChecked?_eq (h : alignment.up? offset = some rounded) : alignment.upChecked? offset =
    if offset = Word.limit - alignment.bytes then none else some rounded := by
  obtain ⟨hroom, rfl⟩ := up?_eq_some.mp h
  have hfits := alignment.fits
  split
  · exact Word.alignUpChecked?_eq_none.mpr (by omega)
  · exact Word.alignUpChecked?_eq_some.mpr ⟨by omega, rfl⟩

/-- A multiple in front is added to the rounded offset, as far as the sum is a word. -/
theorem up?_add (hd : alignment.bytes ∣ other) :
    alignment.up? (other + offset) = (alignment.up? offset).bind (Word.add? other) := by
  rw [up?_eq, up?_eq, ceil_add hd]
  split
  · next hsum =>
    have hword : alignment.ceil offset < Word.limit := by omega
    rw [if_pos hword, Option.bind_some]
    exact (Word.add?_eq_some.mpr ⟨hsum, rfl⟩).symm
  · next hover =>
    split
    · exact (Word.add?_eq_none.mpr (Nat.le_of_not_lt hover)).symm
    · rfl

end Alignment

namespace Word

/-- For every power of two that is a word and every offset: checked rounding finds the least multiple at or above the
offset if that is a word, and nothing otherwise. Whatever it finds is what the sums of rounding without the check come
to, but the first of these sums, the offset and the whole alignment, is a word only up to the last multiple. There,
and at no other offset that can be rounded, a machine that breaks off at such a sum has no result, though the offset
is a multiple itself. What was rounded stays as it is, lower offsets are not rounded higher, and a multiple in front
is only added. -/
theorem rounds_to_least {k a : Nat} (hk : k ≤ 63) (ha : a = 2 ^ k) (offset : Nat) :
    (∃ least, IsLeast {m | a ∣ m ∧ offset ≤ m} least ∧
        alignUp? offset a = if least ≤ 2 ^ 64 - 1 then some least else none) ∧
      (∀ r, alignUp? offset a = some r → alignUp offset a = r ∧
        (offset + a ≤ 2 ^ 64 - 1 ↔ offset ≠ 2 ^ 64 - a) ∧
        alignUpChecked? offset a = if offset = 2 ^ 64 - a then none else some r) ∧
      (alignUp? (2 ^ 64 - a) a = some (2 ^ 64 - a) ∧ alignUpChecked? (2 ^ 64 - a) a = none) ∧
      (alignUp? offset a = none → alignUpChecked? offset a = none) ∧
      (∀ r, alignUp? offset a = some r → alignUp? r a = some r ∧ alignUp r a = r) ∧
      (∀ further r, offset ≤ further → alignUp? further a = some r →
        (∃ lower, alignUp? offset a = some lower ∧ lower ≤ r) ∧ alignUp offset a ≤ alignUp further a) ∧
      ∀ m, a ∣ m →
        alignUp? (m + offset) a = (alignUp? offset a).bind (add? m) ∧
          ∀ r, alignUp? (m + offset) a = some r → alignUp (m + offset) a = m + alignUp offset a := by
  obtain ⟨alignment, rfl⟩ : ∃ alignment : Alignment, alignment.bytes = a := ⟨.ofExponent k hk, ha.symm⟩
  have hpos : 0 < alignment.bytes := alignment.bytes_pos
  have hfits : alignment.bytes < 2 ^ 64 := alignment.fits
  have hagree : ∀ {o r}, alignUp? o alignment.bytes = some r → alignUp o alignment.bytes = r :=
    fun h => ((alignUp?_eq_some hpos).mp h).2.symm
  have hlast : alignUp? (2 ^ 64 - alignment.bytes) alignment.bytes = some (2 ^ 64 - alignment.bytes) :=
    alignment.up?_last
  refine ⟨?least, ?agree, ⟨hlast, ?stops⟩, ?none, ?again, ?order, ?front⟩
  case least =>
    have hchecked : alignUp? offset alignment.bytes =
        if alignment.ceil offset < limit then some (alignment.ceil offset) else none := alignment.up?_eq offset
    have hlimit : ∀ n, n < limit ↔ n ≤ 2 ^ 64 - 1 := fun n => Nat.lt_iff_le_pred (by decide)
    exact ⟨_, alignment.isLeast_ceil offset, hchecked.trans (if_congr (hlimit _) rfl rfl)⟩
  case agree =>
    intro r h
    have hup : alignment.up? offset = some r := h
    have hroom : offset + (alignment.bytes - 1) < 2 ^ 64 := ((alignUp?_eq_some hpos).mp h).1
    exact ⟨hagree h, by omega, Alignment.upChecked?_eq hup⟩
  case stops => exact alignUpChecked?_eq_none.mpr (Nat.le_of_eq (Nat.sub_add_cancel (Nat.le_of_lt hfits)).symm)
  case none =>
    intro h
    have hover : limit ≤ offset + (alignment.bytes - 1) := alignUp?_eq_none.mp h
    exact alignUpChecked?_eq_none.mpr (Nat.le_trans hover (Nat.add_le_add_left (Nat.sub_le _ 1) offset))
  case again =>
    intro r h
    have hagain : alignUp? r alignment.bytes = some r := alignment.up?_rounded h
    exact ⟨hagain, hagree hagain⟩
  case order =>
    intro further r hle h
    obtain ⟨lower, hlower, hmono⟩ := alignment.up?_mono hle h
    refine ⟨⟨lower, hlower, hmono⟩, ?_⟩
    rw [hagree hlower, hagree h]
    exact hmono
  case front =>
    intro m hd
    have hfront : alignUp? (m + offset) alignment.bytes = (alignUp? offset alignment.bytes).bind (add? m) :=
      alignment.up?_add hd
    refine ⟨hfront, fun r h => ?_⟩
    obtain ⟨rounded, hrounded, hsum⟩ := Option.bind_eq_some_iff.mp (hfront.symm.trans h)
    rw [hagree h, hagree hrounded, (add?_eq_some.mp hsum).2]

/-- The last multiple of 256 bounds the offset in front of it and stays as it is. Half of the word range in front is
only added, behind the last multiple the least one is no word, and only from the last multiple on does the sum with
the whole alignment break off. -/
theorem rounds_to_least_lastMultiple :
    IsLeast {m | 2 ^ 8 ∣ m ∧ 2 ^ 64 - 300 ≤ m} (2 ^ 64 - 256) ∧ alignUp (2 ^ 64 - 256) (2 ^ 8) = 2 ^ 64 - 256 ∧
      alignUp (2 ^ 63 + (2 ^ 63 - 300)) (2 ^ 8) = 2 ^ 63 + alignUp (2 ^ 63 - 300) (2 ^ 8) ∧
      (∃ least, IsLeast {m | 2 ^ 8 ∣ m ∧ 2 ^ 64 - 255 ≤ m} least ∧ 2 ^ 64 ≤ least) ∧
      alignUpChecked? (2 ^ 64 - 300) (2 ^ 8) = some (2 ^ 64 - 256) ∧
      alignUpChecked? (2 ^ 64 - 256) (2 ^ 8) = none ∧ alignUpChecked? (2 ^ 64 - 255) (2 ^ 8) = none := by
  have hk : 8 ≤ 63 := by decide
  have hfound : alignUp? (2 ^ 64 - 300) (2 ^ 8) = some (2 ^ 64 - 256) := by decide
  have hnone : alignUp? (2 ^ 64 - 255) (2 ^ 8) = none := by decide
  obtain ⟨⟨least, hleast, hchecked⟩, hagree, hlast, -, hagain, -, -⟩ := rounds_to_least hk rfl (2 ^ 64 - 300)
  obtain ⟨⟨beyond, hbeyond, hrefused⟩, -, -, hbehind, -⟩ := rounds_to_least hk rfl (2 ^ 64 - 255)
  obtain ⟨-, -, -, -, -, -, hfront⟩ := rounds_to_least hk rfl (2 ^ 63 - 300)
  refine ⟨?_, (hagain _ hfound).2, (hfront (2 ^ 63) (by decide)).2 _ hfound, ⟨beyond, hbeyond, ?_⟩,
    (hagree _ hfound).2.2, hlast.2, hbehind hnone⟩
  · rw [hfound] at hchecked
    split at hchecked
    · rwa [Option.some.inj hchecked]
    · cases hchecked
  · rw [hnone] at hrefused
    split at hrefused
    · cases hrefused
    · omega

/-- The last word is a multiple of one, and the last multiple of 256 is one as well: checked rounding leaves both as
they are. Without the check the whole alignment is added first, and nothing is found for either. -/
theorem last_multiple_breaks_off :
    (alignUp? (2 ^ 64 - 1) (2 ^ 0) = some (2 ^ 64 - 1) ∧ alignUpChecked? (2 ^ 64 - 1) (2 ^ 0) = none) ∧
      alignUp? (2 ^ 64 - 256) (2 ^ 8) = some (2 ^ 64 - 256) ∧ alignUpChecked? (2 ^ 64 - 256) (2 ^ 8) = none := by
  decide

end Word
end MemoryPlan
