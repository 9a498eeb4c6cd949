import MemoryPlan.Word
import MemoryPlan.Fault
/-!
# Alignments

An alignment is a power of two below the word limit. Offsets of planned buffers are multiples of it.
-/

namespace MemoryPlan

/-- A power of two that fits a word. -/
structure Alignment where
  /-- The number of bytes that offsets are multiples of. -/
  bytes : Nat
  /-- Exactly one bit is set. -/
  powerOfTwo : Word.isPowerOfTwo bytes = true
  /-- The number fits a word. -/
  fits : bytes < Word.limit
  deriving DecidableEq, Repr

namespace Alignment

/-- No alignment: every offset is a multiple of one. -/
def byte : Alignment := ⟨1, by decide, by decide⟩

instance : Inhabited Alignment := ⟨byte⟩

/-- The alignment of that many bytes; refuses every number that is not a power of two. -/
def ofBytes? (bytes : Nat) : Except PlanError Alignment :=
  if h : Word.isPowerOfTwo bytes = true ∧ bytes < Word.limit then .ok ⟨bytes, h.1, h.2⟩
  else .error (.invalidAllocation (.alignment bytes))

/-- Rounds an offset up to a multiple of the alignment. -/
def up (alignment : Alignment) (offset : Nat) : Nat :=
  Word.alignUp offset alignment.bytes

/-- Rounds an offset up, unless the padded offset leaves the word range. -/
def up? (alignment : Alignment) (offset : Nat) : Option Nat :=
  Word.alignUp? offset alignment.bytes

/-- Rounds an offset up, unless the offset and one alignment more leave the word range. -/
def upChecked? (alignment : Alignment) (offset : Nat) : Option Nat :=
  Word.alignUpChecked? offset alignment.bytes

end Alignment
end MemoryPlan
