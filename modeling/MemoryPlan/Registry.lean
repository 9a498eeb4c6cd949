import MemoryPlan.Kernel
/-!
# Registries

A registry maps the type of a node to the factory that makes the node ready to run. It is an ordinary
value; a later registration of a type replaces the earlier one.
-/

namespace MemoryPlan

/-- Makes an operation of a node and its buffers. -/
abbrev Factory := Node → OperationBuffers → Except PlanError Operation

namespace Factory

/-- Makes operations that do nothing. -/
def idle : Factory := fun node buffers => .ok (Operation.ofNode node buffers .idle)

/-- Makes operations that run a kernel. -/
def ofKernel (kernel : Kernel) : Factory := fun node buffers =>
  .ok (Operation.ofNode node buffers (.kernel kernel))

/-- Makes no operation: each node is refused, with the number of its inputs. -/
def refusing : Factory := fun node buffers =>
  .error (node.unsupported (.stated s!"refused with {buffers.inputs.length} inputs"))

end Factory

/-- The factories by type of node. -/
structure Registry where
  /-- Each type with its factory; each type occurs once. -/
  factories : List (String × Factory) := []

namespace Registry

/-- The registry without factories. -/
def empty : Registry := {}

/-- The factory of a type. -/
def factory? (registry : Registry) (typeName : String) : Option Factory :=
  registry.factories.lookup typeName

/-- Whether a type has a factory. -/
def has (registry : Registry) (typeName : String) : Bool :=
  (registry.factory? typeName).isSome

/-- Sets the factory of a type. -/
def register (registry : Registry) (typeName : String) (factory : Factory) : Registry :=
  { factories := (typeName, factory) :: registry.factories.filter fun (other, _) => other ≠ typeName }

/-- The report of a replaced factory. -/
def replacedEvent (typeName : String) : Event where
  level := .debug
  part := .registry
  message := s!"OperationRegistry: replaced factory for '{typeName}'"

/-- Sets the factory of a type; replacing one is reported. -/
def registerNoted {ε : Type} (registry : Registry) (typeName : String) (factory : Factory) :
    Noted ε Registry where
  events := if registry.has typeName then [replacedEvent typeName] else []
  result := .ok (registry.register typeName factory)

/-- The registry that knows parameters, constants, results and views; none of them does anything. -/
def structural : Registry :=
  NodeKind.structuralTypes.foldl (fun registry typeName => registry.register typeName .idle) empty

/-- The number of types. -/
def count (registry : Registry) : Nat := registry.factories.length

/-- The types in ascending order. -/
def typeNames (registry : Registry) : List String :=
  (registry.factories.map Prod.fst).mergeSort fun a b => a ≤ b

/-- Makes a node ready to run, by the factory of its type. -/
def create (registry : Registry) (node : Node) (buffers : OperationBuffers) :
    Except PlanError Operation :=
  match registry.factory? node.kind.typeName with
  | none => .error (node.unsupported .unregistered)
  | some factory => factory node buffers

/-- The registry as records show it. -/
def shown (registry : Registry) : String :=
  Text.record "OperationRegistry"
    [("operations", Text.bracketed (registry.typeNames.map Text.quote))]

end Registry
end MemoryPlan
