import MemoryPlan.Tensor
import MemoryPlan.Fault
/-!
# Graphs

A graph describes its tensors and lists its nodes in the order in which they run: the node at position
`i` reads tensors that earlier nodes produced. `Graph.validate` accepts exactly the orders that can run.
-/

namespace MemoryPlan

/-- A change of shape that keeps the bytes. -/
inductive ViewKind where
  | reshape
  | squeeze
  | unsqueeze
  deriving DecidableEq, Repr

/-- What a node does. -/
inductive NodeKind where
  /-- An input of the graph, given with each request. -/
  | parameter
  /-- Data known when planning. -/
  | constant (data : Bytes)
  /-- An output of the graph. -/
  | result
  /-- Another shape for the same bytes. -/
  | view (kind : ViewKind)
  /-- An operation that a kernel performs. -/
  | compute (typeName : String)
  deriving DecidableEq, Repr

namespace NodeKind

/-- The name by which implementations are registered. -/
def typeName : NodeKind → String
  | parameter => "Parameter"
  | constant _ => "Constant"
  | result => "Result"
  | view .reshape => "Reshape"
  | view .squeeze => "Squeeze"
  | view .unsqueeze => "Unsqueeze"
  | compute typeName => typeName

/-- The types that are part of every graph language. -/
def structuralTypes : List String :=
  ["Parameter", "Constant", "Result", "Reshape", "Squeeze", "Unsqueeze"]

/-- Whether the output shares the bytes of the input. -/
def isView : NodeKind → Bool
  | view _ => true
  | _ => false

/-- Whether the output is known when planning. -/
def isConstant : NodeKind → Bool
  | constant _ => true
  | _ => false

/-- The fixed numbers of inputs and outputs, if there are any. -/
def arity? : NodeKind → Option (Nat × Nat)
  | parameter | constant _ => some (0, 1)
  | result => some (1, 0)
  | view _ => some (1, 1)
  | compute _ => none

end NodeKind

/-- One step of a graph. -/
structure Node where
  /-- The name in messages and bindings. -/
  name : String
  /-- What the node does. -/
  kind : NodeKind
  /-- The tensors it reads. -/
  inputs : List TensorId
  /-- The tensors it produces. -/
  outputs : List TensorId
  deriving DecidableEq, Repr

namespace Node

/-- Whether the numbers of inputs and outputs suit the kind. -/
def arityFits (node : Node) : Bool :=
  match node.kind.arity? with
  | none => true
  | some (inputs, outputs) => node.inputs.length == inputs && node.outputs.length == outputs

/-- The error of an operation that is not supported. -/
def unsupported (node : Node) (cause : SupportCause) : PlanError :=
  .unsupportedOperation node.name node.kind.typeName cause

end Node

/-- An ordered sequence of operations on tensors. -/
structure Graph where
  /-- The name of the network. -/
  name : String := ""
  /-- The tensors that nodes refer to. -/
  tensors : List Tensor := []
  /-- The nodes, in the order in which they run. -/
  nodes : List Node := []
  deriving DecidableEq, Repr

namespace Graph

/-- Adds a tensor at the end of the list. -/
def addTensor (graph : Graph) (tensor : Tensor) : Graph :=
  { graph with tensors := graph.tensors ++ [{ tensor with id := ⟨graph.tensors.length⟩ }] }

/-- Adds a node that runs last. -/
def addNode (graph : Graph) (node : Node) : Graph :=
  { graph with nodes := graph.nodes ++ [node] }

/-- The description of a tensor. -/
def tensor? (graph : Graph) (t : TensorId) : Option Tensor := graph.tensors[t.index]?

/-- The nodes with their positions. -/
def positioned (graph : Graph) : List (Node × Nat) := graph.nodes.zipIdx

/-- The parameter nodes with their positions. -/
def parameters (graph : Graph) : List (Node × Nat) :=
  graph.positioned.filter fun (node, _) => node.kind == .parameter

/-- The result nodes with their positions. -/
def results (graph : Graph) : List (Node × Nat) :=
  graph.positioned.filter fun (node, _) => node.kind == .result

/-- The position of the last node; zero in a graph without nodes. -/
def lastPosition (graph : Graph) : Nat := graph.nodes.length - 1

/-- Refuses a node whose numbers of inputs and outputs do not suit its kind. -/
def checkArity (node : Node) : Except PlanError Unit :=
  if node.arityFits then .ok ()
  else
    .error (.invalidGraph
      (.arity node.name node.kind.typeName node.inputs.length node.outputs.length))

/-- Refuses a read of a tensor that is not described or not produced yet. -/
def checkRead (graph : Graph) (produced : List TensorId) (node : Node) (position : Nat) (t : TensorId) :
    Except PlanError Unit :=
  if graph.tensors.length ≤ t.index then .error (.invalidGraph (.readsUnknown node.name t))
  else if t ∈ produced then .ok ()
  else .error (.invalidGraph (.readTooEarly node.name position t))

/-- Marks a tensor as produced; refuses one that is not described or produced already. -/
def checkWrite (graph : Graph) (node : Node) (produced : List TensorId) (t : TensorId) :
    Except PlanError (List TensorId) :=
  if graph.tensors.length ≤ t.index then .error (.invalidGraph (.writesUnknown node.name t))
  else if t ∈ produced then .error (.invalidGraph (.producedTwice t node.name))
  else .ok (t :: produced)

/-- Checks a node after the nodes before it: the arity, each read, each write. -/
def checkNode (graph : Graph) (produced : List TensorId) (step : Node × Nat) :
    Except PlanError (List TensorId) := do
  checkArity step.1
  step.1.inputs.forM (graph.checkRead produced step.1 step.2)
  step.1.outputs.foldlM (graph.checkWrite step.1) produced

/-- Refuses an order of nodes that cannot run. -/
def validate (graph : Graph) : Except PlanError Unit := do
  let _ ← graph.positioned.foldlM graph.checkNode []
  return ()

end Graph
end MemoryPlan
