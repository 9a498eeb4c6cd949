import MemoryPlan.Kernel.Sample
import MemoryPlan.Network.Request
import MemoryPlan.Proofs.Graph
import MemoryPlan.Proofs.Program.Confinement
/-!
# Reference semantics

What a graph means, without any memory plan: its nodes run in order, and every tensor has storage of its
own. Kernels enter as functions from the bytes of their inputs to those of their outputs; a kernel computes
such a function if it stays within its tensors and leaves the bytes of the function there, wherever the
tensors lie, as long as no output shares bytes with another tensor of the node.
-/

namespace MemoryPlan

namespace Kernel

/-- At tensors of those sizes, the kernel reads its inputs and writes its outputs only. -/
def Confined (kernel : Kernel) (inputSizes outputSizes : List Nat) : Prop :=
  ∀ (context : KernelContext) (inputs outputs : List TensorPlace),
    inputs.map TensorPlace.size = inputSizes → outputs.map TensorPlace.size = outputSizes →
      (kernel context inputs outputs).Within inputs outputs

/-- At tensors of those sizes, the kernel computes a function of the bytes of its inputs: it ends early where
the function does, and else writes every byte of every output. -/
structure Computes (kernel : Kernel) (inputSizes outputSizes : List Nat)
    (meaning : List Bytes → Except (Halt PlanError) (List Bytes)) : Prop where
  /-- It stays within its tensors. -/
  confined : kernel.Confined inputSizes outputSizes
  /-- It ends as the function does. -/
  outcome : ∀ (context : KernelContext) (inputs outputs : List TensorPlace) (m : Memory),
    inputs.map TensorPlace.size = inputSizes → outputs.map TensorPlace.size = outputSizes →
      outputs.Pairwise TensorPlace.Apart → (∀ p ∈ inputs, ∀ q ∈ outputs, p.Apart q) →
        ((kernel context inputs outputs).evaluate m).1 =
          (meaning (inputs.map fun p => p.bytes m)).map fun _ => ()
  /-- It leaves the bytes of the function in its outputs. -/
  written : ∀ (context : KernelContext) (inputs outputs : List TensorPlace) (m : Memory) (data : List Bytes),
    inputs.map TensorPlace.size = inputSizes → outputs.map TensorPlace.size = outputSizes →
      outputs.Pairwise TensorPlace.Apart → (∀ p ∈ inputs, ∀ q ∈ outputs, p.Apart q) →
        meaning (inputs.map fun p => p.bytes m) = .ok data →
          outputs.map (fun p => p.bytes ((kernel context inputs outputs).evaluate m).2) = data

end Kernel

/-- The doubling kernel computes the doubled bytes, for tensors of any size. -/
theorem SampleKernel.double_computes (n : Nat) :
    SampleKernel.double.kernel.Computes [n] [n] fun inputs =>
      .ok (inputs.map fun data => data.map (· * 2)) := by
  have hplaces : ∀ places : List TensorPlace, places.map TensorPlace.size = [n] →
      ∃ p : TensorPlace, places = [p] ∧ p.size = n := by
    intro places h
    obtain ⟨p, rfl⟩ := List.length_eq_one_iff.mp (by simpa using congrArg List.length h)
    exact ⟨p, rfl, (List.cons.inj h).1⟩
  have hevaluate : ∀ (context : KernelContext) (a out : TensorPlace) (m : Memory),
      (SampleKernel.double.kernel context [a] [out]).evaluate m =
        (.ok (), m.write out.start ((a.bytes m).map (· * 2))) := by
    intro context a out m
    unfold kernel fetchAll
    rw [Program.evaluate_bind, Program.evaluate_fetch]
    dsimp only
    rw [Program.evaluate_store]
    rfl
  refine ⟨?_, ?_, ?_⟩
  · intro context inputs outputs hin hout
    obtain ⟨a, rfl, ha⟩ := hplaces inputs hin
    obtain ⟨out, rfl, hsize⟩ := hplaces outputs hout
    have hheld : ∀ p : TensorPlace, 0 < p.size → TensorPlace.Granted [p] p.start p.size := fun p =>
      (TensorPlace.Held.of_subset fun _ h => h).granted
    refine Program.within_fetch_bind (hheld a) ?_
    intro data hdata
    apply Program.within_store
    rw [List.length_map, hdata, ha, ← hsize]
    exact hheld out
  · intro context inputs outputs m hin hout _ _
    obtain ⟨a, rfl, -⟩ := hplaces inputs hin
    obtain ⟨out, rfl, -⟩ := hplaces outputs hout
    rw [hevaluate]
    rfl
  · intro context inputs outputs m data hin hout _ _ hdata
    obtain ⟨a, rfl, ha⟩ := hplaces inputs hin
    obtain ⟨out, rfl, hsize⟩ := hplaces outputs hout
    rw [hevaluate, ← Except.ok.inj hdata]
    have hlength : out.size = ((a.bytes m).map (· * 2)).length := by
      rw [List.length_map, TensorPlace.length_bytes, ha, hsize]
    simp only [List.map_cons, List.map_nil, TensorPlace.bytes, hlength, Memory.bytes_write]

namespace Registry

/-- The registry makes idle operations of constants and views; of a compute node it makes, if anything, the
operation on the buffers of the node that runs an accepted kernel. -/
structure Serves (registry : Registry) (graph : Graph) (accepts : Node → Kernel → Prop) : Prop where
  /-- Constants and views do nothing. -/
  idle : ∀ typeName ∈ ["Constant", "Reshape", "Squeeze", "Unsqueeze"],
    registry.factory? typeName = some Factory.idle
  /-- Compute nodes run accepted kernels. -/
  kernels : ∀ node ∈ graph.nodes, ∀ typeName, node.kind = .compute typeName →
    ∀ (buffers : OperationBuffers) (operation : Operation), registry.create node buffers = .ok operation →
      operation.buffers = buffers ∧ ∃ kernel, operation.action = .kernel kernel ∧ accepts node kernel

/-- Every kernel stays within the tensors of its node. -/
def Confines (registry : Registry) (graph : Graph) : Prop :=
  registry.Serves graph fun node kernel =>
    kernel.Confined (node.inputs.map graph.bytesOf) (node.outputs.map graph.bytesOf)

/-- Every kernel computes the function of its node. -/
def Performs (registry : Registry) (graph : Graph)
    (meaning : Node → List Bytes → Except (Halt PlanError) (List Bytes)) : Prop :=
  registry.Serves graph fun node kernel =>
    kernel.Computes (node.inputs.map graph.bytesOf) (node.outputs.map graph.bytesOf) (meaning node)

variable {registry : Registry} {graph : Graph}

/-- A kernel that computes a function is confined. -/
theorem Performs.confines {meaning : Node → List Bytes → Except (Halt PlanError) (List Bytes)}
    (h : registry.Performs graph meaning) : registry.Confines graph := by
  refine ⟨h.idle, ?_⟩
  intro node hnode typeName hkind buffers operation hcreate
  obtain ⟨hbuffers, kernel, haction, hcomputes⟩ :=
    h.kernels node hnode typeName hkind buffers operation hcreate
  exact ⟨hbuffers, kernel, haction, hcomputes.confined⟩

/-- The operation of a constant or a view does nothing. -/
theorem Serves.idle_of_kind {accepts : Node → Kernel → Prop} (h : registry.Serves graph accepts) {node : Node}
    (hkind : node.kind.isView = true ∨ node.kind.isConstant = true) {buffers : OperationBuffers}
    {operation : Operation} (hcreate : registry.create node buffers = .ok operation) :
    operation = Operation.ofNode node buffers .idle := by
  have hname : node.kind.typeName ∈ ["Constant", "Reshape", "Squeeze", "Unsqueeze"] := by
    cases hnode : node.kind with
    | constant data => simp [NodeKind.typeName]
    | view kind => cases kind <;> simp [NodeKind.typeName]
    | _ => simp [hnode, NodeKind.isView, NodeKind.isConstant] at hkind
  unfold create at hcreate
  rw [h.idle _ hname] at hcreate
  exact (Except.ok.inj hcreate).symm

end Registry

/-- The bytes of every tensor, each in storage of its own. -/
abbrev Values := TensorId → Bytes

namespace Values

/-- The values after some tensors were given bytes. -/
def bind (values : Values) (tensors : List TensorId) (data : List Bytes) : Values := fun t =>
  ((tensors.zip data).lookup t).getD (values t)

end Values

/-- What a node does to the values of the tensors and the outputs so far. -/
def Node.interpret (node : Node) (meaning : Node → List Bytes → Except (Halt PlanError) (List Bytes))
    (inputs : Inputs) (values : Values) (outputs : Outputs) : Except (Halt PlanError) (Values × Outputs) :=
  match node.kind with
  | .parameter =>
    match inputs.lookup node.name with
    | none => .error (.error (.missingInput node.name))
    | some data => .ok (values.bind node.outputs [data], outputs)
  | .constant data => .ok (values.bind node.outputs [data], outputs)
  | .view _ => .ok (values.bind node.outputs (node.inputs.map values), outputs)
  | .result => .ok (values, outputs ++ node.inputs.map fun t => (node.name, values t))
  | .compute _ =>
    (meaning node (node.inputs.map values)).map fun data => (values.bind node.outputs data, outputs)

/-- The outputs of several nodes in order, or the early end of the first node that has one. -/
def Node.interpretAll (meaning : Node → List Bytes → Except (Halt PlanError) (List Bytes)) (inputs : Inputs) :
    Values → Outputs → List Node → Except (Halt PlanError) Outputs
  | _, outputs, [] => .ok outputs
  | values, outputs, node :: rest => do
    let (values, outputs) ← node.interpret meaning inputs values outputs
    interpretAll meaning inputs values outputs rest

/-- The outputs of a graph, or the early end of its first node that has one. -/
def Graph.interpret (graph : Graph) (meaning : Node → List Bytes → Except (Halt PlanError) (List Bytes))
    (inputs : Inputs) : Except (Halt PlanError) Outputs :=
  Node.interpretAll meaning inputs (fun _ => []) [] graph.nodes

end MemoryPlan
