import MemoryPlan.Program
import MemoryPlan.Graph
/-!
# Kernels and operations

A kernel is the program that performs an operation, given the places of its inputs and outputs. An
operation is a node made ready to run: its buffers are fixed, and it runs a kernel or nothing.
-/

namespace MemoryPlan

/-- What a kernel is told about the request that runs it. -/
structure KernelContext where
  /-- The region that serves the request. -/
  slot : Nat
  /-- The number of the device. -/
  ordinal : Int
  deriving DecidableEq, Repr

/-- The place of a tensor while a request runs. -/
structure TensorPlace where
  /-- The address of the first byte. -/
  address : Address
  /-- The number of bytes. -/
  size : Nat
  deriving DecidableEq, Repr

/-- The program of an operation, given the places of its inputs and its outputs. -/
abbrev Kernel := KernelContext → List TensorPlace → List TensorPlace → Program Unit

/-- The buffers of a node with their sizes. -/
structure OperationBuffers where
  /-- The buffers it reads. -/
  inputs : List BufferId := []
  /-- The buffers it writes. -/
  outputs : List BufferId := []
  /-- The bytes of each input. -/
  inputSizes : List Nat := []
  /-- The bytes of each output. -/
  outputSizes : List Nat := []
  deriving DecidableEq, Repr

namespace OperationBuffers

/-- The buffers as records show them. -/
def shown (buffers : OperationBuffers) : String :=
  Text.record "OperationBuffers"
    [("inputs", BufferId.shownList buffers.inputs), ("outputs", BufferId.shownList buffers.outputs),
      ("input_sizes", Text.bracketed (buffers.inputSizes.map toString)),
      ("output_sizes", Text.bracketed (buffers.outputSizes.map toString))]

end OperationBuffers

/-- What an operation does when it runs. -/
inductive Action where
  /-- Nothing: its data are bound before, read after, or shared with its input. -/
  | idle
  /-- It runs a kernel. -/
  | kernel (kernel : Kernel)

/-- A node made ready to run. -/
structure Operation where
  /-- The name of the node. -/
  name : String
  /-- The type of the node. -/
  typeName : String
  /-- The buffers of the node. -/
  buffers : OperationBuffers
  /-- What it does. -/
  action : Action

namespace Operation

/-- The operation of a node, with that action. -/
def ofNode (node : Node) (buffers : OperationBuffers) (action : Action) : Operation :=
  ⟨node.name, node.kind.typeName, buffers, action⟩

/-- Pairs addresses with sizes; refuses lists of different lengths. -/
def places (addresses : List Address) (sizes : List Nat) : Except PlanError (List TensorPlace) :=
  if addresses.length = sizes.length then .ok (List.zipWith TensorPlace.mk addresses sizes)
  else .error (.executionFailed (.bufferCount sizes.length addresses.length))

/-- Runs the operation with its buffers at those addresses. -/
def perform (operation : Operation) (context : KernelContext) (inputs outputs : List Address) :
    Program Unit :=
  match operation.action with
  | .idle => .done ()
  | .kernel kernel => do
    let inputs ← Program.ofExcept (places inputs operation.buffers.inputSizes)
    let outputs ← Program.ofExcept (places outputs operation.buffers.outputSizes)
    kernel context inputs outputs

/-- The operation as records show it. -/
def shown (operation : Operation) : String :=
  let name := match operation.action with
    | .idle => "NopOperation"
    | .kernel _ => "KernelOperation"
  Text.record name
    [("name", Text.quote operation.name), ("type_name", Text.quote operation.typeName),
      ("buffers", operation.buffers.shown)]

end Operation
end MemoryPlan
