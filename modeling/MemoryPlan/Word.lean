/-!
# Machine words

Sizes, offsets and addresses are natural numbers below `Word.limit`. The checked operations of this
module say when a sum or a product leaves that range. `Word.alignUp` rounds up to a multiple of a power of
two with the add-and-mask step of a 64-bit machine, whose sums start again at zero behind the limit. It adds
the whole alignment before it takes one away, so that a machine that breaks off at such a sum
(`Word.alignUpChecked?`) stops at an offset at which `Word.alignUp?`, which adds one less, still finds a
multiple.
-/

namespace MemoryPlan.Word

/-- How many values a 64-bit word has; every size, offset and address lies below it. -/
def limit : Nat := UInt64.size

/-- The sum of two words, unless it leaves the word range. -/
def add? (a b : Nat) : Option Nat :=
  if a + b < limit then some (a + b) else none

/-- The product of two words, unless it leaves the word range. -/
def mul? (a b : Nat) : Option Nat :=
  if a * b < limit then some (a * b) else none

/-- Exactly one bit of the number is set. -/
def isPowerOfTwo (n : Nat) : Bool :=
  n != 0 && (n &&& (n - 1)) == 0

/-- Rounds up to a multiple of a power of two: add the alignment, take one away, then clear the low bits. -/
def alignUp (offset alignment : Nat) : Nat :=
  ((UInt64.ofNat offset + UInt64.ofNat alignment - 1) &&& ~~~(UInt64.ofNat alignment - 1)).toNat

/-- `alignUp` on a machine that breaks off at a sum that leaves the word range: its first sum is that of the
offset and the whole alignment, and the other steps stay below it. -/
def alignUpChecked? (offset alignment : Nat) : Option Nat :=
  (add? offset alignment).map fun _ => alignUp offset alignment

/-- Rounds up to a multiple of a power of two, unless the offset and one less than the alignment add up to more
than a word: the low bits of that sum are cleared. -/
def alignUp? (offset alignment : Nat) : Option Nat :=
  (add? offset (alignment - 1)).map fun padded =>
    (UInt64.ofNat padded &&& ~~~(UInt64.ofNat alignment - 1)).toNat

theorem add?_eq_some {a b c : Nat} : add? a b = some c ↔ a + b < limit ∧ c = a + b := by
  by_cases h : a + b < limit <;> simp [add?, h, eq_comm]

theorem add?_eq_none {a b : Nat} : add? a b = none ↔ limit ≤ a + b := by
  unfold add?
  split <;> simp_all

theorem mul?_eq_some {a b c : Nat} : mul? a b = some c ↔ a * b < limit ∧ c = a * b := by
  by_cases h : a * b < limit <;> simp [mul?, h, eq_comm]

theorem mul?_eq_none {a b : Nat} : mul? a b = none ↔ limit ≤ a * b := by
  unfold mul?
  split <;> simp_all

/-- Words add in any order: the whole alignment may be added and one be taken away behind it, also where the first
of these sums starts again at zero. -/
theorem ofNat_padded {o a : Nat} (hpos : 0 < a) :
    UInt64.ofNat o + UInt64.ofNat a - 1 = UInt64.ofNat (o + (a - 1)) := by
  have hone : UInt64.ofNat (a - 1) = UInt64.ofNat a - 1 := UInt64.ofNat_sub hpos
  rw [UInt64.ofNat_add, hone, UInt64.sub_eq_add_neg, UInt64.sub_eq_add_neg, UInt64.add_assoc]

theorem alignUp?_eq_some {o a r : Nat} (hpos : 0 < a) :
    alignUp? o a = some r ↔ o + (a - 1) < limit ∧ r = alignUp o a := by
  rw [alignUp, ofNat_padded hpos]
  by_cases h : o + (a - 1) < limit <;> simp [alignUp?, add?, h, eq_comm]

theorem alignUp?_eq_none {o a : Nat} : alignUp? o a = none ↔ limit ≤ o + (a - 1) := by
  rw [alignUp?, Option.map_eq_none_iff, add?_eq_none]

theorem alignUpChecked?_eq_some {o a r : Nat} :
    alignUpChecked? o a = some r ↔ o + a < limit ∧ r = alignUp o a := by
  by_cases h : o + a < limit <;> simp [alignUpChecked?, add?, h, eq_comm]

theorem alignUpChecked?_eq_none {o a : Nat} : alignUpChecked? o a = none ↔ limit ≤ o + a := by
  rw [alignUpChecked?, Option.map_eq_none_iff, add?_eq_none]

end MemoryPlan.Word
