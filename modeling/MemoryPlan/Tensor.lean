import MemoryPlan.Word
import MemoryPlan.Handle
/-!
# Tensors

A tensor is described by its element type and its shape. Its byte size is known before running exactly
when every dimension is fixed and no product on the way leaves the word range.
-/

namespace MemoryPlan

/-- The type of a tensor's elements. -/
inductive ElementType where
  | bool
  | u8
  | i8
  | i32
  | u32
  | i64
  | f16
  | bf16
  | f32
  | f64
  deriving DecidableEq, Repr

namespace ElementType

/-- The bytes of one element. -/
def bytes : ElementType → Nat
  | bool | u8 | i8 => 1
  | f16 | bf16 => 2
  | i32 | u32 | f32 => 4
  | i64 | f64 => 8

end ElementType

/-- One dimension of a shape. -/
inductive Dimension where
  /-- A length known before running. -/
  | fixed (length : Nat)
  /-- A length only known at run time. -/
  | dynamic
  deriving DecidableEq, Repr

namespace Dimension

/-- The length, if it is known before running. -/
def length? : Dimension → Option Nat
  | fixed n => some n
  | dynamic => none

end Dimension

/-- The description of a tensor. -/
structure Tensor where
  /-- The place in the graph; a description outside a graph carries the first place. -/
  id : TensorId := ⟨0⟩
  /-- The dimensions, outermost first. -/
  shape : List Dimension
  /-- The type of the elements. -/
  element : ElementType
  deriving DecidableEq, Repr

namespace Tensor

/-- Whether every dimension is fixed. -/
def isStatic (t : Tensor) : Bool :=
  t.shape.all fun d => d.length?.isSome

/-- The number of elements, multiplied up from the left; stops at a dynamic dimension or an overflow. -/
def elementCount (t : Tensor) : Option Nat :=
  t.shape.foldlM (fun count d => d.length?.bind (Word.mul? count)) 1

/-- The number of bytes, if it is known before running and fits a word. -/
def byteSize (t : Tensor) : Option Nat :=
  t.elementCount.bind fun count => Word.mul? count t.element.bytes

end Tensor
end MemoryPlan
