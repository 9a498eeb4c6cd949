import MemoryPlan.Text.Numeral
import MemoryPlan.Text.Quoted
/-!
# Handles

The names by which a plan refers to things: tensors of a graph, buffers of a plan, and addresses of a
device.
-/

namespace MemoryPlan

/-- The place of a tensor in its graph's tensor list. -/
structure TensorId where
  /-- Position in the tensor list. -/
  index : Nat
  deriving DecidableEq, Repr, Inhabited

/-- A buffer of a plan; buffers are numbered densely in order of first production. -/
structure BufferId where
  /-- Position in the buffer list. -/
  index : Nat
  deriving DecidableEq, Repr, Inhabited

/-- An address of device memory. -/
abbrev Address := Nat

/-- Bytes of host or device memory. -/
abbrev Bytes := List UInt8

namespace TensorId

/-- The tensor as messages name it. -/
def text (t : TensorId) : String := s!"t{t.index}"

end TensorId

namespace BufferId

/-- The buffer as messages name it. -/
def text (b : BufferId) : String := s!"#{b.index}"

/-- The buffer as records show it. -/
def shown (b : BufferId) : String := s!"BufferId({b.index})"

/-- A list of buffers as records show it. -/
def shownList (bs : List BufferId) : String := Text.bracketed (bs.map shown)

end BufferId

namespace Address

/-- The null address. -/
def null : Address := 0

/-- The address as messages name it. -/
def text (a : Address) : String := "0x" ++ Text.hexadecimal a

/-- The address as records show it. -/
def shown (a : Address) : String := s!"DevicePtr({a})"

end Address
end MemoryPlan
