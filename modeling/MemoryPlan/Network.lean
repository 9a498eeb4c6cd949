import MemoryPlan.Assignment
import MemoryPlan.Pool
import MemoryPlan.Transient
/-!
# Networks

A network is a graph made ready to run on one device: its nodes as steps, in order, and the pool of
regions for its requests. It does not change while it serves requests, only the lending of its pool does.
-/

namespace MemoryPlan

/-- A graph input or output as requests see it. -/
structure Binding where
  /-- The name in requests. -/
  name : String
  /-- The position of the parameter or result node. -/
  position : Nat
  /-- The buffer that holds the data. -/
  buffer : BufferId
  /-- The bytes of the data. -/
  size : Nat
  deriving DecidableEq, Repr

/-- What a request does at a step. -/
inductive Role where
  /-- It copies an input of the request into its buffer. -/
  | parameter (binding : Binding)
  /-- It copies a buffer back as an output of the request. -/
  | result (binding : Binding)
  /-- It performs the operation. -/
  | operation
  deriving DecidableEq, Repr

/-- A node of a network. -/
structure Step where
  /-- The node, ready to run. -/
  operation : Operation
  /-- What a request does there. -/
  role : Role

namespace Step

/-- The input that the step binds, if any. -/
def parameter? (step : Step) : Option Binding :=
  match step.role with
  | .parameter binding => some binding
  | _ => none

/-- The output that the step yields, if any. -/
def result? (step : Step) : Option Binding :=
  match step.role with
  | .result binding => some binding
  | _ => none

end Step

/-- A network ready to serve requests. -/
structure Network where
  /-- The name of the graph. -/
  name : String
  /-- The name of the device. -/
  deviceLabel : String
  /-- The number of the device. -/
  ordinal : Int
  /-- The steps, in order. -/
  steps : List Step
  /-- How much sharing bytes saves in a region. -/
  reuse : ReuseReport
  /-- The memory for requests. -/
  pool : RegionPool

namespace Network

/-- The inputs, in the order of their nodes. -/
def parameters (network : Network) : List Binding := network.steps.filterMap Step.parameter?

/-- The outputs, in the order of their nodes. -/
def results (network : Network) : List Binding := network.steps.filterMap Step.result?

/-- The operations, in order. -/
def operations (network : Network) : List Operation := network.steps.map Step.operation

/-- Each name with its position in a list of bindings. -/
def indexOf (bindings : List Binding) : List (String × Nat) :=
  bindings.zipIdx.map fun (binding, i) => (binding.name, i)

/-- Changes which regions are free. -/
def withLending (network : Network) (lending : Lending) : Network :=
  { network with pool := { network.pool with lending } }

/-- The network as records show it. -/
def shown (network : Network) : String :=
  let index (bindings : List Binding) : String :=
    Text.braced ((indexOf bindings).map fun (name, i) => s!"{Text.quote name}: {i}")
  Text.record "CompiledNetwork"
    [("name", Text.quote network.name), ("device", Text.quote network.deviceLabel),
      ("operations", toString network.steps.length), ("inputs", index network.parameters),
      ("outputs", index network.results), ("streams", toString network.pool.size)]

end Network
end MemoryPlan
