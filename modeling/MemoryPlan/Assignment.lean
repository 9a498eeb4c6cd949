import MemoryPlan.Progress
import MemoryPlan.Registry
/-!
# Buffer assignments

One walk over the nodes of a graph gives every produced tensor a buffer. The output of a constant node is
a constant buffer with its data; every other output is a transient buffer that lives from its producer to
its last reader; the output of a view shares the buffer of its input, so that readers of the view keep
that buffer alive. A buffer read by a result node lives to the last position.
-/

namespace MemoryPlan

/-- What a buffer holds. -/
inductive BufferContent where
  /-- Data known when planning. -/
  | constant (data : Bytes)
  /-- Data of one request, alive during a closed interval of positions. -/
  | transient (start finish : Nat)
  deriving DecidableEq, Repr

/-- A buffer of an assignment. -/
structure AssignedBuffer where
  /-- The buffer. -/
  id : BufferId
  /-- Its bytes. -/
  size : Nat
  /-- What it holds. -/
  content : BufferContent
  deriving DecidableEq, Repr

namespace AssignedBuffer

/-- Whether the buffer holds constant data. -/
def isConstant (buffer : AssignedBuffer) : Bool :=
  match buffer.content with
  | .constant _ => true
  | .transient .. => false

/-- The buffer kept alive to a position. -/
def extended (position : Nat) (buffer : AssignedBuffer) : AssignedBuffer :=
  match buffer.content with
  | .constant _ => buffer
  | .transient start finish => { buffer with content := .transient start (max finish position) }

end AssignedBuffer

/-- The buffers of a graph. -/
structure Assignment where
  /-- The buffers; each stands at the position that its id names. -/
  buffers : List AssignedBuffer := []
  /-- The buffers of the nodes, by position. -/
  nodes : List OperationBuffers := []
  /-- Each produced tensor with its buffer, latest first. -/
  tensors : List (TensorId × BufferId) := []
  deriving DecidableEq, Repr

namespace Assignment

/-- The buffer of an id. -/
def buffer? (a : Assignment) (id : BufferId) : Option AssignedBuffer := a.buffers[id.index]?

/-- The buffer of an id; an id that was not assigned is refused. -/
def find (a : Assignment) (id : BufferId) : Except PlanError AssignedBuffer :=
  match a.buffer? id with
  | some buffer => .ok buffer
  | none => .error (.unknownBuffer id)

/-- The buffer of a tensor, if it was produced. -/
def bufferOf? (a : Assignment) (t : TensorId) : Option BufferId := a.tensors.lookup t

/-- The buffer of a tensor; a tensor without one is refused. -/
def bufferOf (a : Assignment) (t : TensorId) : Except PlanError BufferId :=
  match a.bufferOf? t with
  | some id => .ok id
  | none => .error (.invalidGraph (.noBuffer t))

/-- Adds a buffer; it gets the next id. -/
def push (a : Assignment) (size : Nat) (content : BufferContent) : BufferId × Assignment :=
  let id : BufferId := ⟨a.buffers.length⟩
  (id, { a with buffers := a.buffers ++ [⟨id, size, content⟩] })

/-- Keeps a transient buffer alive to a position. -/
def extend (a : Assignment) (id : BufferId) (position : Nat) : Assignment :=
  { a with buffers := a.buffers.modify id.index (AssignedBuffer.extended position) }

/-- Notes the buffer of a tensor. -/
def bind (a : Assignment) (t : TensorId) (id : BufferId) : Assignment :=
  { a with tensors := (t, id) :: a.tensors }

/-- The buffer that a node reads for a tensor, with its size. -/
def readTensor (a : Assignment) (t : TensorId) : Except PlanError (BufferId × Nat) := do
  let id ← a.bufferOf t
  let buffer ← a.find id
  return (id, buffer.size)

/-- The position to which a node keeps its inputs alive. -/
def keptTo (graph : Graph) (node : Node) (position : Nat) : Nat :=
  if node.kind == .result then graph.lastPosition else position

/-- The size of an output; a tensor that is not described and an unknown size are refused. -/
def outputSize (graph : Graph) (node : Node) (t : TensorId) : Except PlanError Nat :=
  match graph.tensor? t with
  | none => .error (.invalidGraph (.writesUnknown node.name t))
  | some tensor =>
    match tensor.byteSize with
    | none => .error (node.unsupported (.unknownSize t))
    | some size => .ok size

/-- The buffer of an output of that size, given the buffers that the node reads. -/
def outputBuffer (a : Assignment) (node : Node) (position : Nat) (inputs : List (BufferId × Nat))
    (size : Nat) : Except PlanError (BufferId × Assignment) :=
  match node.kind with
  | .view _ =>
    match inputs with
    | [] => .error (.internal (.viewWithoutSource node.name))
    | (source, sourceSize) :: _ =>
      if sourceSize = size then .ok (source, a)
      else .error (.invalidGraph (.viewSize node.name sourceSize size))
  | .constant data =>
    if data.length = size then .ok (a.push size (.constant data))
    else .error (.invalidGraph (.constantSize node.name data.length size))
  | _ => .ok (a.push size (.transient position position))

/-- Gives the outputs of a node their buffers, in order. -/
def assignOutputs (graph : Graph) (node : Node) (position : Nat) (inputs : List (BufferId × Nat)) :
    Assignment → List TensorId → Except PlanError (List (BufferId × Nat) × Assignment)
  | a, [] => .ok ([], a)
  | a, t :: rest => do
    let size ← outputSize graph node t
    let (id, after) ← a.outputBuffer node position inputs size
    let (ids, final) ← assignOutputs graph node position inputs (after.bind t id) rest
    return ((id, size) :: ids, final)

/-- Adds the buffers of a node, given those of its inputs and outputs. -/
def addNode (a : Assignment) (inputs outputs : List (BufferId × Nat)) : Assignment :=
  let buffers : OperationBuffers :=
    { inputs := inputs.map Prod.fst, outputs := outputs.map Prod.fst,
      inputSizes := inputs.map Prod.snd, outputSizes := outputs.map Prod.snd }
  { a with nodes := a.nodes ++ [buffers] }

/-- Gives a node its buffers: its type must be registered; then its inputs are looked up and kept alive,
and its outputs get buffers. -/
def assignNode (graph : Graph) (registry : Registry) (a : Assignment) (step : Node × Nat) :
    Except PlanError Assignment := do
  let (node, position) := step
  if registry.has node.kind.typeName then
    let inputs ← node.inputs.mapM a.readTensor
    let kept := inputs.foldl (fun a input => a.extend input.1 (keptTo graph node position)) a
    let (outputs, after) ← assignOutputs graph node position inputs kept node.outputs
    return after.addNode inputs outputs
  else .error (node.unsupported .unregistered)

/-- The walk over all nodes. -/
def walk (graph : Graph) (registry : Registry) : Progress Assignment PlanError :=
  Progress.walk (assignNode graph registry) {} graph.positioned

/-- The assignment of a graph; the graph must be valid, and each node must get its buffers. -/
def ofGraph (graph : Graph) (registry : Registry) : Except PlanError Assignment := do
  graph.validate
  (walk graph registry).result

/-- The buffers that hold constant data. -/
def constantIds (a : Assignment) : List BufferId :=
  (a.buffers.filter AssignedBuffer.isConstant).map AssignedBuffer.id

/-- The buffers that hold data of one request. -/
def transientIds (a : Assignment) : List BufferId :=
  (a.buffers.filter fun b => !b.isConstant).map AssignedBuffer.id

/-- The data of a constant buffer. -/
def constantData (a : Assignment) (id : BufferId) : Except PlanError Bytes := do
  match (← a.find id).content with
  | .constant data => .ok data
  | .transient .. => .error (.unknownBuffer id)

/-- The first and the last position of a transient buffer. -/
def lifespan (a : Assignment) (id : BufferId) : Except PlanError (Nat × Nat) := do
  match (← a.find id).content with
  | .transient start finish => .ok (start, finish)
  | .constant _ => .error (.unknownBuffer id)

/-- The bytes of a buffer. -/
def bufferSize (a : Assignment) (id : BufferId) : Except PlanError Nat :=
  (a.find id).map AssignedBuffer.size

/-- The buffers of the node at a position. -/
def nodeBuffers? (a : Assignment) (position : Nat) : Option OperationBuffers := a.nodes[position]?

/-- The report of a node with its buffers. -/
def nodeEvent (step : Node × Nat) (buffers : OperationBuffers) : Event where
  level := .trace
  part := .assignment
  message :=
    s!"Extractor: node {step.2} '{step.1.name}' ({step.1.kind.typeName}) " ++
      s!"inputs={BufferId.shownList buffers.inputs} outputs={BufferId.shownList buffers.outputs}"

/-- The reports of the nodes that have their buffers. -/
def nodeEvents (graph : Graph) (a : Assignment) : List Event :=
  List.zipWith nodeEvent graph.positioned a.nodes

/-- The report of a finished assignment. -/
def summaryEvent (graph : Graph) (a : Assignment) : Event where
  level := .debug
  part := .assignment
  message :=
    s!"Extractor: {graph.nodes.length} nodes, {a.constantIds.length} immutable buffers, " ++
      s!"{a.transientIds.length} mutable buffers"

/-- The assignment of a graph, with the reports of its making. -/
def noted (graph : Graph) (registry : Registry) : Noted PlanError Assignment := do
  Noted.ofExcept graph.validate
  let progress := walk graph registry
  Noted.noteAll (nodeEvents graph progress.reached)
  let a ← Noted.ofExcept progress.result
  Noted.note (summaryEvent graph a)
  return a

theorem noted_result (graph : Graph) (registry : Registry) :
    (noted graph registry).result = ofGraph graph registry := by
  unfold noted ofGraph
  simp only [Noted.result_bind, Noted.result_ofExcept, Noted.result_noteAll, Noted.result_note,
    Noted.result_pure]
  cases graph.validate with
  | error e => rfl
  | ok u => cases h : (walk graph registry).result <;> rfl

end Assignment
end MemoryPlan
