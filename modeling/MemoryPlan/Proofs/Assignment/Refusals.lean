import MemoryPlan.Proofs.Assignment.Supported
/-!
# Refused assignments

A graph gets no buffers because it is invalid, or because of one of its nodes (`Assignment.NodeRefuses`): no
implementation is registered for it, the size of an output is not known, or its data or its source are of another
size.
-/

namespace MemoryPlan.Assignment

variable {graph : Graph} {registry : Registry} {node : Node} {a : Assignment} {e : PlanError}

/-- Why a node of a valid graph gets no buffers. -/
inductive NodeRefuses (graph : Graph) (registry : Registry) (node : Node) : PlanError → Prop where
  /-- Its type is not registered. -/
  | unregistered (h : registry.factory? node.kind.typeName = none) :
      NodeRefuses graph registry node (node.unsupported .unregistered)
  /-- The size of an output is not known before running. -/
  | unknownSize {t : TensorId} {tensor : Tensor} (ht : t ∈ node.outputs) (htensor : graph.tensor? t = some tensor)
      (h : tensor.byteSize = none) : NodeRefuses graph registry node (node.unsupported (.unknownSize t))
  /-- The data of a constant have another size than its tensor. -/
  | constantSize {t : TensorId} {data : Bytes} (hkind : node.kind = .constant data) (ht : t ∈ node.outputs)
      (h : data.length ≠ graph.bytesOf t) :
      NodeRefuses graph registry node (.invalidGraph (.constantSize node.name data.length (graph.bytesOf t)))
  /-- A view has another size than its source. -/
  | viewSize {source t : TensorId} (hview : node.kind.isView = true) (hsource : source ∈ node.inputs)
      (ht : t ∈ node.outputs) (h : graph.bytesOf source ≠ graph.bytesOf t) :
      NodeRefuses graph registry node
        (.invalidGraph (.viewSize node.name (graph.bytesOf source) (graph.bytesOf t)))

/-- The fault of a node is one of these reasons. -/
theorem NodeFault.refuses (h : NodeFault graph registry node e) : NodeRefuses graph registry node e := by
  cases h with
  | unregistered hnot => exact .unregistered (by simpa [Registry.has] using hnot)
  | output _ hfirst =>
    obtain ⟨before, t, after, hsplit, -, hfault⟩ := hfirst
    have ht : t ∈ node.outputs := by
      rw [hsplit]
      exact List.mem_append_cons_self
    cases hfault with
    | unknownSize htensor hunknown => exact .unknownSize ht htensor hunknown
    | constantSize hkind hsize hne =>
      rw [← Graph.bytesOf_eq hsize] at hne ⊢
      exact .constantSize hkind ht hne
    | viewSize hview hsource hsourceSize hsize hne =>
      rw [← Graph.bytesOf_eq hsourceSize, ← Graph.bytesOf_eq hsize] at hne ⊢
      exact .viewSize hview hsource ht hne

/-- A graph gets no buffers because it is invalid, or because of one of its nodes. -/
theorem ofGraph_refuses (h : ofGraph graph registry = .error e) :
    (∃ cause, e = .invalidGraph cause ∧ graph.validate = .error (.invalidGraph cause)) ∨
      ∃ node ∈ graph.nodes, NodeRefuses graph registry node e := by
  cases hvalid : graph.validate with
  | error other =>
    obtain ⟨cause, rfl, -⟩ := Graph.validate_eq_error hvalid
    have hsame : ofGraph graph registry = .error (.invalidGraph cause) :=
      Except.bind_eq_error.mpr (Or.inl hvalid)
    exact Or.inl ⟨cause, (Except.error.inj (hsame.symm.trans h)).symm, rfl⟩
  | ok _ =>
    obtain ⟨before, node, after, hsplit, -, hfault⟩ := firstFault_of_ofGraph hvalid h
    refine Or.inr ⟨node, ?_, hfault.refuses⟩
    rw [hsplit]
    exact List.mem_append_cons_self

/-- Each node of a graph that got its buffers is registered. -/
theorem ofGraph_registered (h : ofGraph graph registry = .ok a) (hnode : node ∈ graph.nodes) :
    ∃ factory, registry.factory? node.kind.typeName = some factory :=
  Option.isSome_iff_exists.mp ((supported_of_ofGraph h).2 node hnode).registered

end MemoryPlan.Assignment
