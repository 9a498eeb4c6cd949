import MemoryPlan.Handle
/-!
# Faults

Every way in which planning or running can fail. A fault keeps its cause as data; `DeviceFault.message`
and `PlanError.message` give the wording, and `PlanError.category` says who can act on it. A cause
`stated` carries words chosen by a caller: a kernel, an operation factory or a device.
-/

namespace MemoryPlan

/-- Why a device could not hand out memory. -/
inductive AllocationCause where
  /-- More bytes were asked for than are free. -/
  | outOfMemory (requested free : Nat)
  /-- A buffer needs at least one byte. -/
  | zeroSize
  /-- In the words of a caller. -/
  | stated (text : String)
  deriving DecidableEq, Repr

/-- Why a copy to or from a buffer was refused. -/
inductive CopyCause where
  /-- The range does not lie in the buffer. -/
  | outOfBounds (offset length size : Nat)
  /-- In the words of a caller. -/
  | stated (text : String)
  deriving DecidableEq, Repr

/-- Why an address was refused. -/
inductive AddressCause where
  /-- No live allocation starts at or below the address. -/
  | notAllocated (address : Address)
  /-- The range runs over the end of the allocation it starts in. -/
  | beyond (address : Address) (length : Nat) (base : Address) (size : Nat)
  /-- No live allocation starts at the address. -/
  | unknownFree (address : Address)
  /-- In the words of a caller. -/
  | stated (text : String)
  deriving DecidableEq, Repr

/-- A failure of the device layer. -/
inductive DeviceFault where
  /-- The device could not be set up. -/
  | initializationFailed (text : String)
  /-- Memory could not be handed out. -/
  | allocationFailed (cause : AllocationCause)
  /-- A copy was refused. -/
  | copyFailed (cause : CopyCause)
  /-- The amount of memory could not be found out. -/
  | queryFailed (text : String)
  /-- An address was refused. -/
  | invalidAddress (cause : AddressCause)
  /-- There is no such device. -/
  | notFound
  /-- Any other failure of the device. -/
  | failure (text : String)
  /-- A lock of the device layer was left in an unknown state. -/
  | lockPoisoned (text : String)
  deriving DecidableEq, Repr

namespace AllocationCause

/-- The cause in words. -/
def message : AllocationCause → String
  | outOfMemory requested free => s!"out of device memory: requested {requested} bytes, {free} free"
  | zeroSize => "Allocation size cannot be zero"
  | stated text => text

end AllocationCause

namespace CopyCause

/-- The cause in words. -/
def message : CopyCause → String
  | outOfBounds offset length size =>
    s!"copy out of bounds: offset={offset} len={length} buffer_size={size}"
  | stated text => text

end CopyCause

namespace AddressCause

/-- The cause in words. -/
def message : AddressCause → String
  | notAllocated address => s!"{Address.text address} is not allocated"
  | beyond address length base size =>
    s!"range {Address.text address}+{length} exceeds allocation at {Address.text base} of {size} bytes"
  | unknownFree address => s!"free of unknown pointer {Address.text address}"
  | stated text => text

end AddressCause

namespace DeviceFault

/-- The fault in words. -/
def message : DeviceFault → String
  | initializationFailed text => "Device initialization failed: " ++ text
  | allocationFailed cause => "Memory allocation failed: " ++ cause.message
  | copyFailed cause => "Memory copy failed: " ++ cause.message
  | queryFailed text => "Memory query failed: " ++ text
  | invalidAddress cause => "Invalid device pointer: " ++ cause.message
  | notFound => "Device not found"
  | failure text => "Device error: " ++ text
  | lockPoisoned text => "Internal lock poisoned - this indicates a bug: " ++ text

/-- Whether trying again later may succeed. -/
def isRecoverable : DeviceFault → Bool
  | failure _ | allocationFailed _ | copyFailed _ | queryFailed _ => true
  | _ => false

/-- Whether trying again can never succeed. -/
def isPermanent (fault : DeviceFault) : Bool := !fault.isRecoverable

end DeviceFault

/-- Why an operation is not supported. -/
inductive SupportCause where
  /-- No implementation is registered for its type. -/
  | unregistered
  /-- The byte size of an output is not known before running. -/
  | unknownSize (tensor : TensorId)
  /-- In the words of a caller. -/
  | stated (text : String)
  deriving DecidableEq, Repr

/-- Why a graph is not a valid ordered sequence of operations. -/
inductive GraphCause where
  /-- A node of fixed arity has other numbers of inputs and outputs. -/
  | arity (node typeName : String) (inputs outputs : Nat)
  /-- A node reads a tensor that no earlier node produced. -/
  | readTooEarly (node : String) (position : Nat) (tensor : TensorId)
  /-- A node reads a tensor that the graph does not describe. -/
  | readsUnknown (node : String) (tensor : TensorId)
  /-- A tensor is produced a second time. -/
  | producedTwice (tensor : TensorId) (node : String)
  /-- A node writes a tensor that the graph does not describe. -/
  | writesUnknown (node : String) (tensor : TensorId)
  /-- A tensor is read that no buffer holds. -/
  | noBuffer (tensor : TensorId)
  /-- A constant's data and its tensor differ in size. -/
  | constantSize (node : String) (held needed : Nat)
  /-- A view and its source differ in size. -/
  | viewSize (node : String) (source target : Nat)
  /-- Two parameters or two results share a name. -/
  | duplicateName (role name : String)
  /-- In the words of a caller. -/
  | stated (text : String)
  deriving DecidableEq, Repr

/-- Why a set of buffers refuses another one. -/
inductive PlacementCause where
  /-- An alignment is not a power of two. -/
  | alignment (bytes : Nat)
  /-- A lifespan ends before it starts. -/
  | invertedLifespan (buffer : BufferId) (start finish : Nat)
  /-- A transient buffer is already in the set. -/
  | duplicateTransient (buffer : BufferId)
  /-- The region would leave the word range. -/
  | transientOverflow (buffer : BufferId) (size reserved : Nat)
  /-- A constant buffer is already in the set. -/
  | duplicateConstant (buffer : BufferId)
  /-- The block would leave the word range. -/
  | constantOverflow (buffer : BufferId) (size reserved : Nat)
  /-- In the words of a caller. -/
  | stated (text : String)
  deriving DecidableEq, Repr

/-- Why a setting is refused. -/
inductive SettingCause where
  /-- A fixed stream count of zero. -/
  | zeroStreams
  /-- A text that is no stream count. -/
  | streams (text : String)
  /-- A device number that is no integer. -/
  | deviceText (text : String)
  /-- An alignment that is no integer. -/
  | alignmentText (text : String)
  /-- A negative device number. -/
  | negativeDevice (ordinal : Int)
  /-- An alignment that is not a power of two. -/
  | alignment (bytes : Nat)
  /-- The configuration names another device than the one at hand. -/
  | otherDevice (configured actual : Int) (label : String)
  /-- A pool without regions. -/
  | emptyPool
  /-- A lease of another pool. -/
  | foreignLease (slot : Nat) (network : String)
  /-- In the words of a caller. -/
  | stated (text : String)
  deriving DecidableEq, Repr

/-- Why an operation failed while running. -/
inductive ExecutionCause where
  /-- A kernel was handed another number of buffers than it has sizes. -/
  | bufferCount (expected got : Nat)
  /-- A request's input has another size than its parameter. -/
  | inputSize (name : String) (got expected : Nat)
  /-- In the words of a caller. -/
  | stated (text : String)
  deriving DecidableEq, Repr

/-- A state that correct planning never reaches. -/
inductive InternalCause where
  /-- A node has no buffers. -/
  | nodeWithoutBuffers (position : Nat)
  /-- A view has no input to share bytes with. -/
  | viewWithoutSource (node : String)
  /-- A parameter or a result has no buffer. -/
  | bindingWithoutBuffer (name : String)
  /-- A constant has no offset. -/
  | constantWithoutOffset (buffer : BufferId)
  /-- A leased slot has no region. -/
  | slotWithoutRegion (slot : Nat)
  /-- In the words of a caller. -/
  | stated (text : String)
  deriving DecidableEq, Repr

/-- A failure of planning or running. -/
inductive PlanError where
  /-- The transient region of the model has no bytes. -/
  | modelNotLoaded
  /-- Not even one region fits beside the constant block. -/
  | insufficientMemory (free constants region : Nat)
  /-- An operation has no implementation or no known output size. -/
  | unsupportedOperation (node typeName : String) (cause : SupportCause)
  /-- The graph is not a valid ordered sequence of operations. -/
  | invalidGraph (cause : GraphCause)
  /-- A set of buffers refuses another one. -/
  | invalidAllocation (cause : PlacementCause)
  /-- A setting is refused. -/
  | invalidConfiguration (cause : SettingCause)
  /-- No part of the plan holds the buffer. -/
  | unknownBuffer (buffer : BufferId)
  /-- A request leaves out a parameter. -/
  | missingInput (name : String)
  /-- A request names something that is not a parameter. -/
  | unknownInput (name : String)
  /-- An operation failed while running. -/
  | executionFailed (cause : ExecutionCause)
  /-- The device layer failed. -/
  | device (fault : DeviceFault)
  /-- A state that correct planning never reaches. -/
  | internal (cause : InternalCause)
  /-- A lock of the pool was left in an unknown state. -/
  | lockPoisoned (text : String)
  deriving DecidableEq, Repr

namespace SupportCause

/-- The cause in words. -/
def message : SupportCause → String
  | unregistered => "no registered implementation"
  | unknownSize tensor => s!"output {tensor.text} has no statically known size"
  | stated text => text

end SupportCause

namespace GraphCause

/-- The cause in words. -/
def message : GraphCause → String
  | arity node typeName inputs outputs =>
    s!"node '{node}' ({typeName}) has {inputs} inputs and {outputs} outputs"
  | readTooEarly node position tensor =>
    s!"node '{node}' at position {position} reads {tensor.text} before it is produced"
  | readsUnknown node tensor => s!"node '{node}' reads unknown tensor {tensor.text}"
  | producedTwice tensor node => s!"tensor {tensor.text} is produced twice (again by '{node}')"
  | writesUnknown node tensor => s!"node '{node}' writes unknown tensor {tensor.text}"
  | noBuffer tensor => s!"tensor {tensor.text} has no buffer"
  | constantSize node held needed =>
    s!"constant '{node}' holds {held} bytes but its tensor needs {needed}"
  | viewSize node source target => s!"view '{node}' changes byte size from {source} to {target}"
  | duplicateName role name => s!"duplicate {role} name '{name}'"
  | stated text => text

end GraphCause

namespace PlacementCause

/-- The cause in words. -/
def message : PlacementCause → String
  | alignment bytes => s!"Alignment must be power of 2, got {bytes}"
  | invertedLifespan buffer start finish =>
    s!"buffer {buffer.text} ends at {finish} before it starts at {start}"
  | duplicateTransient buffer => s!"buffer {buffer.text} was already added to the memory model"
  | transientOverflow buffer size reserved =>
    s!"buffer {buffer.text} of {size} bytes overflows the addressable region " ++
      s!"({reserved} bytes already added)"
  | duplicateConstant buffer => s!"constant buffer {buffer.text} was already added"
  | constantOverflow buffer size reserved =>
    s!"constant buffer {buffer.text} of {size} bytes overflows the block ({reserved} bytes already added)"
  | stated text => text

end PlacementCause

namespace SettingCause

/-- The cause in words. -/
def message : SettingCause → String
  | zeroStreams => "stream count must be positive"
  | streams text =>
    s!"wrong value for property key MEMFORGE_THROUGHPUT_STREAMS: '{text}' " ++
      "(expected AUTO or a positive integer)"
  | deviceText text => s!"MEMFORGE_DEVICE_ID must be an integer, got '{text}'"
  | alignmentText text => s!"MEMFORGE_ALIGNMENT must be an integer, got '{text}'"
  | negativeDevice ordinal => s!"device id must be non-negative, got {ordinal}"
  | alignment bytes => s!"alignment must be a power of two, got {bytes}"
  | otherDevice configured actual label =>
    s!"configured device {configured} but compiling for device {actual} ({label})"
  | emptyPool => "memory manager pool needs at least one stream"
  | foreignLease slot network => s!"memory manager {slot} was not leased from the pool of '{network}'"
  | stated text => text

end SettingCause

namespace ExecutionCause

/-- The cause in words. -/
def message : ExecutionCause → String
  | bufferCount expected got => s!"kernel expects {expected} buffers, got {got}"
  | inputSize name got expected => s!"input '{name}' has {got} bytes, expected {expected}"
  | stated text => text

end ExecutionCause

namespace InternalCause

/-- The cause in words. -/
def message : InternalCause → String
  | nodeWithoutBuffers position => s!"node {position} has no buffers"
  | viewWithoutSource node => s!"view '{node}' has no input"
  | bindingWithoutBuffer name => s!"'{name}' has no buffer"
  | constantWithoutOffset buffer => s!"constant {buffer.text} lost its offset"
  | slotWithoutRegion slot => s!"pool has no region for slot {slot}"
  | stated text => text

end InternalCause

/-- Who can act on an error. -/
inductive ErrorCategory where
  /-- The caller, by another graph, configuration or request. -/
  | user
  /-- Whoever provides the device memory. -/
  | resource
  /-- Nobody but the authors of the library. -/
  | internal
  /-- Whoever runs the device. -/
  | backend
  /-- Whoever made the model. -/
  | model
  deriving DecidableEq, Repr

namespace ErrorCategory

/-- The category's name. -/
def text : ErrorCategory → String
  | user => "User"
  | resource => "Resource"
  | internal => "Internal"
  | backend => "Backend"
  | model => "Model"

end ErrorCategory

namespace PlanError

/-- The error in words. -/
def message : PlanError → String
  | modelNotLoaded => "Model is not loaded properly: size of transient tensors for the model is 0"
  | insufficientMemory free constants region =>
    s!"Not enough device memory even for a single execution: free={free} bytes, " ++
      s!"constant block={constants} bytes, transient region={region} bytes"
  | unsupportedOperation node typeName cause =>
    s!"Unsupported operation '{node}' of type '{typeName}': {cause.message}"
  | invalidGraph cause => "Invalid graph: " ++ cause.message
  | invalidAllocation cause => "Invalid allocation: " ++ cause.message
  | invalidConfiguration cause => "Invalid configuration: " ++ cause.message
  | unknownBuffer buffer => "Unknown buffer id: " ++ buffer.text
  | missingInput name => s!"Missing input '{name}'"
  | unknownInput name => s!"Unknown input '{name}'"
  | executionFailed cause => "Execution failed: " ++ cause.message
  | device fault => "Device error: " ++ fault.message
  | internal cause => "Internal error: " ++ cause.message
  | lockPoisoned text => "Internal lock poisoned: " ++ text

/-- Who can act on the error. -/
def category : PlanError → ErrorCategory
  | unsupportedOperation .. | invalidGraph _ | invalidConfiguration _ | missingInput _ | unknownInput _ =>
    .user
  | insufficientMemory .. => .resource
  | modelNotLoaded => .model
  | device _ | executionFailed _ => .backend
  | unknownBuffer _ | invalidAllocation _ | internal _ | lockPoisoned _ => .internal

/-- Whether trying again, possibly with another configuration, may succeed. -/
def isRecoverable : PlanError → Bool
  | device fault => fault.isRecoverable
  | error => error.category == .resource

/-- Whether the caller can act on the error. -/
def isUserError (error : PlanError) : Bool := error.category == .user

/-- Whether the error shows a defect of the library. -/
def isInternalError (error : PlanError) : Bool := error.category == .internal

end PlanError
end MemoryPlan
