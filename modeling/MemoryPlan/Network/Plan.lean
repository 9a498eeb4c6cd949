import MemoryPlan.Config
import MemoryPlan.Network
/-!
# Network plans

Everything about a network that can be settled before any device memory is allocated: the steps, the
constants and the transient buffers. A plan is a function of the graph, the registry, the configuration
and the identity of the device.
-/

namespace MemoryPlan

/-- What is settled before memory is allocated. -/
structure NetworkPlan where
  /-- The steps, in order. -/
  steps : List Step
  /-- The constants. -/
  constants : ConstantSet
  /-- The transient buffers. -/
  transients : TransientSet

namespace NetworkPlan

/-- The binding of a node, whose data are in the first of those buffers. -/
def bindingOf (a : Assignment) (name : String) (position : Nat) (buffers : List BufferId) :
    Except PlanError Binding :=
  match buffers with
  | [] => .error (.internal (.bindingWithoutBuffer name))
  | buffer :: _ => (a.bufferSize buffer).map fun size => ⟨name, position, buffer, size⟩

/-- What a request does at a node. -/
def roleOf (a : Assignment) (node : Node) (position : Nat) (buffers : OperationBuffers) :
    Except PlanError Role :=
  match node.kind with
  | .parameter => (bindingOf a node.name position buffers.outputs).map .parameter
  | .result => (bindingOf a node.name position buffers.inputs).map .result
  | _ => .ok .operation

/-- The step of a node. -/
def stepOf (a : Assignment) (registry : Registry) (item : Node × Nat) : Except PlanError Step := do
  match a.nodeBuffers? item.2 with
  | none => .error (.internal (.nodeWithoutBuffers item.2))
  | some buffers =>
    let role ← roleOf a item.1 item.2 buffers
    let operation ← registry.create item.1 buffers
    return ⟨operation, role⟩

/-- The first name that occurs a second time, given those seen so far. -/
def firstRepeat? (seen : List String) : List String → Option String
  | [] => none
  | name :: rest => if name ∈ seen then some name else firstRepeat? (name :: seen) rest

/-- Refuses bindings that share a name. -/
def checkNames (role : String) (bindings : List Binding) : Except PlanError Unit :=
  match firstRepeat? [] (bindings.map Binding.name) with
  | none => .ok ()
  | some name => .error (.invalidGraph (.duplicateName role name))

/-- The constant buffers of an assignment with their data. -/
def constantItems (a : Assignment) : Except PlanError (List (BufferId × Bytes)) :=
  a.constantIds.mapM fun id => (a.constantData id).map fun data => (id, data)

/-- A transient buffer of an assignment. -/
def transientOf (a : Assignment) (id : BufferId) : Except PlanError Transient := do
  let (start, finish) ← a.lifespan id
  let size ← a.bufferSize id
  return ⟨id, start, finish, size⟩

/-- The steps of a graph; two parameters or two results of one name are refused. -/
def stepsOf (a : Assignment) (registry : Registry) (graph : Graph) : Except PlanError (List Step) := do
  let steps ← graph.positioned.mapM (stepOf a registry)
  checkNames "parameter" (steps.filterMap Step.parameter?)
  checkNames "result" (steps.filterMap Step.result?)
  return steps

/-- The report that planning begins. -/
def startedEvent (graph : Graph) (label : String) : Event where
  level := .info
  part := .compilation
  message :=
    s!"Compiling '{graph.name}': {graph.nodes.length} nodes, {graph.tensors.length} tensors on {label}"

/-- Refuses a configuration that names another device. -/
def checkDevice (config : PlanConfig) (ordinal : Int) (label : String) : Except PlanError Unit :=
  if ordinal = config.deviceId then .ok ()
  else .error (.invalidConfiguration (.otherDevice config.deviceId ordinal label))

/-- The constants of an assignment, packed; the reports of the packed ones come first. -/
def packConstants (a : Assignment) (alignment : Nat) : Noted PlanError ConstantSet := do
  let alignment ← Noted.ofExcept (Alignment.ofBytes? alignment)
  let items ← Noted.ofExcept (constantItems a)
  let progress := ConstantSet.addAll { alignment } items
  Noted.noteAll progress.reached.events
  Noted.ofExcept progress.result

/-- The transient buffers of an assignment; the reports of the accepted ones come first. -/
def gatherTransients (a : Assignment) (alignment : Nat) : Noted PlanError TransientSet := do
  let alignment ← Noted.ofExcept (Alignment.ofBytes? alignment)
  let items ← Noted.ofExcept (a.transientIds.mapM (transientOf a))
  let progress := TransientSet.addAll { alignment } items
  Noted.noteAll progress.reached.events
  Noted.ofExcept progress.result

/-- The plan of a graph on a device of that identity, with the reports of its making. -/
def make (graph : Graph) (registry : Registry) (config : PlanConfig) (ordinal : Int) (label : String) :
    Noted PlanError NetworkPlan := do
  Noted.ofExcept config.validate
  Noted.ofExcept (checkDevice config ordinal label)
  Noted.note (startedEvent graph label)
  let assignment ← Assignment.noted graph registry
  let steps ← Noted.ofExcept (stepsOf assignment registry graph)
  let constants ← packConstants assignment config.alignment
  let transients ← gatherTransients assignment config.alignment
  Noted.note { level := .info, part := .compilation, message := transients.reuse.text }
  return ⟨steps, constants, transients⟩

end NetworkPlan
end MemoryPlan
