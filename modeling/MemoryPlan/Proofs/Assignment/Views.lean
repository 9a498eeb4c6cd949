import Mathlib.Logic.Relation
import MemoryPlan.Proofs.Assignment.Walk
/-!
# Views and their sources

A view shares the bytes of the tensor that it reads, so that a chain of views leads back to a tensor that some
other node produced. In a finished assignment the tensors of such chains live in the buffer of their source,
and every tensor that has a buffer is the source or a view of a tensor that a node of another kind produced.
-/

namespace MemoryPlan

namespace Graph

/-- A view node reads the one tensor and produces the other one. -/
def ViewedAs (graph : Graph) (source target : TensorId) : Prop :=
  ∃ node ∈ graph.nodes, node.kind.isView = true ∧ source ∈ node.inputs ∧ target ∈ node.outputs

/-- A tensor has the bytes of a source: it is the source, or a chain of views leads to it from there. -/
def SharesBytes (graph : Graph) : TensorId → TensorId → Prop := Relation.ReflTransGen graph.ViewedAs

/-- The node at a position is no view and produces the tensor. -/
def Sourced (graph : Graph) (position : Nat) (t : TensorId) : Prop :=
  ∃ node, graph.nodes[position]? = some node ∧ node.kind.isView = false ∧ t ∈ node.outputs

end Graph

namespace Assignment

variable {graph : Graph} {registry : Registry} {node : Node} {position : Nat} {a : Assignment}
  {buffers : OperationBuffers} {id : BufferId} {t u : TensorId}

/-- A listed tensor has its buffer in the list. -/
theorem exists_bufferOf? {tensors : List TensorId} {ids : List BufferId}
    (h : List.Forall₂ (fun t id => a.bufferOf? t = some id) tensors ids) (ht : t ∈ tensors) :
    ∃ id ∈ ids, a.bufferOf? t = some id := by
  induction h with
  | nil => cases ht
  | cons hbound _ ih =>
    rcases List.mem_cons.mp ht with rfl | ht
    · exact ⟨_, List.mem_cons_self .., hbound⟩
    · obtain ⟨id, hid, hbuffer⟩ := ih ht
      exact ⟨id, List.mem_cons_of_mem _ hid, hbuffer⟩

/-- A listed buffer is that of a listed tensor. -/
theorem exists_tensor {tensors : List TensorId} {ids : List BufferId}
    (h : List.Forall₂ (fun t id => a.bufferOf? t = some id) tensors ids) (hid : id ∈ ids) :
    ∃ t ∈ tensors, a.bufferOf? t = some id := by
  induction h with
  | nil => cases hid
  | cons hbound _ ih =>
    rcases List.mem_cons.mp hid with rfl | hid
    · exact ⟨_, List.mem_cons_self .., hbound⟩
    · obtain ⟨t, ht, hbuffer⟩ := ih hid
      exact ⟨t, List.mem_cons_of_mem _ ht, hbuffer⟩

/-- A view node has one input and one output, and both live in the same buffer. -/
theorem Accounts.viewed (h : Accounts graph position node a buffers) (hview : node.kind.isView = true) :
    ∃ source target, node.inputs = [source] ∧ node.outputs = [target] ∧
      a.bufferOf? target = a.bufferOf? source := by
  obtain ⟨source, target, hsource, htarget⟩ := Graph.eq_singletons_of_view h.arity hview
  have hin := h.inputs
  have hout := h.outputs
  rw [hsource] at hin
  rw [h.view hview, htarget] at hout
  obtain ⟨id, _, hread, hnil, hids⟩ := List.forall₂_cons_left_iff.mp hin
  rw [hids] at hout
  obtain ⟨_, _, hwritten, -, hsame⟩ := List.forall₂_cons_left_iff.mp hout
  obtain ⟨rfl, -⟩ := List.cons.inj hsame
  exact ⟨source, target, hsource, htarget, hwritten.trans hread.symm⟩

/-- The tensors that have buffers are those that some node produces. -/
theorem Follows.isSome_bufferOf?_iff (h : Follows graph graph.nodes.length a) :
    (a.bufferOf? t).isSome ↔
      ∃ (position : Nat) (node : Node), graph.nodes[position]? = some node ∧ t ∈ node.outputs := by
  rw [h.bound t]
  constructor
  · intro hmem
    obtain ⟨position, node, -, hnode, ht⟩ := Graph.exists_of_mem_producedBefore hmem
    exact ⟨position, node, hnode, ht⟩
  · rintro ⟨position, node, hnode, ht⟩
    unfold Graph.producedBefore
    rw [List.take_length]
    exact List.mem_flatMap.mpr ⟨node, List.mem_of_getElem? hnode, ht⟩

/-- A view lives in the buffer of its source. -/
theorem Follows.bufferOf?_viewedAs (h : Follows graph graph.nodes.length a) (hview : graph.ViewedAs t u) :
    a.bufferOf? u = a.bufferOf? t := by
  obtain ⟨node, hmem, hkind, ht, hu⟩ := hview
  obtain ⟨position, hlt, rfl⟩ := List.getElem_of_mem hmem
  obtain ⟨buffers, -, haccounts⟩ := h.accounts hlt (List.getElem?_eq_getElem hlt)
  obtain ⟨source, target, hsource, htarget, hsame⟩ := haccounts.viewed hkind
  rw [hsource, List.mem_singleton] at ht
  rw [htarget, List.mem_singleton] at hu
  rw [ht, hu]
  exact hsame

/-- A chain of views stays in one buffer. -/
theorem Follows.bufferOf?_sharesBytes (h : Follows graph graph.nodes.length a)
    (hshares : graph.SharesBytes t u) : a.bufferOf? u = a.bufferOf? t := by
  induction hshares with
  | refl => rfl
  | tail _ hview ih => rw [h.bufferOf?_viewedAs hview, ih]

/-- Every tensor with a buffer has the bytes of one that a node of another kind than a view produced. -/
theorem Follows.exists_source (h : Follows graph graph.nodes.length a) (ht : (a.bufferOf? t).isSome) :
    ∃ position source, graph.Sourced position source ∧ graph.SharesBytes source t := by
  obtain ⟨position, node, hnode, hout⟩ := h.isSome_bufferOf?_iff.mp ht
  -- following a view back leads to an earlier node
  induction position using Nat.strongRecOn generalizing t node with
  | ind position ih =>
    cases hview : node.kind.isView with
    | false => exact ⟨position, t, ⟨node, hnode, hview, hout⟩, .refl⟩
    | true =>
      obtain ⟨hlt, -⟩ := List.getElem?_eq_some_iff.mp hnode
      obtain ⟨buffers, -, haccounts⟩ := h.accounts hlt hnode
      obtain ⟨source, target, hsource, htarget, hsame⟩ := haccounts.viewed hview
      rw [htarget, List.mem_singleton] at hout
      have hread : source ∈ node.inputs := by
        rw [hsource]
        exact List.mem_singleton_self _
      have hviewed : graph.ViewedAs source t := by
        refine ⟨node, List.mem_of_getElem? hnode, hview, hread, ?_⟩
        rw [htarget, hout]
        exact List.mem_singleton_self _
      obtain ⟨earlier, producer, hearlier, hproducer, hproduced⟩ :=
        Graph.exists_of_mem_producedBefore (haccounts.produced source hread)
      have hbuffer : (a.bufferOf? source).isSome :=
        h.isSome_bufferOf?_iff.mpr ⟨earlier, producer, hproducer, hproduced⟩
      obtain ⟨first, root, hroot, hshares⟩ := ih earlier hearlier hbuffer producer hproducer hproduced
      exact ⟨first, root, hroot, hshares.tail hviewed⟩

/-- A transient buffer starts at the node that is no view and produces a tensor living there. -/
theorem Follows.start_of_sourced (h : Follows graph graph.nodes.length a) (hsourced : graph.Sourced position t)
    (ht : a.bufferOf? t = some id) {start finish : Nat} (hspans : a.Spans id start finish) :
    position = start := by
  obtain ⟨node, hnode, hview, hout⟩ := hsourced
  obtain ⟨hlt, -⟩ := List.getElem?_eq_some_iff.mp hnode
  obtain ⟨buffers, -, haccounts⟩ := h.accounts hlt hnode
  have hid : id ∈ buffers.outputs := mem_of_bufferOf? haccounts.outputs hout ht
  exact (haccounts.start_eq hview hid hspans).2.symm

/-- A transient buffer has one tensor that was not produced by a view. -/
theorem Follows.source_unique (h : Follows graph graph.nodes.length a) {other : Nat}
    (ht : graph.Sourced position t) (hu : graph.Sourced other u) (htid : a.bufferOf? t = some id)
    (huid : a.bufferOf? u = some id) {start finish : Nat} (hspans : a.Spans id start finish) : t = u := by
  have hsame : other = position :=
    (h.start_of_sourced hu huid hspans).trans (h.start_of_sourced ht htid hspans).symm
  subst hsame
  obtain ⟨node, hnode, hview, hout⟩ := ht
  obtain ⟨node', hnode', -, hout'⟩ := hu
  rw [hnode] at hnode'
  obtain rfl := Option.some.inj hnode'
  obtain ⟨hlt, -⟩ := List.getElem?_eq_some_iff.mp hnode
  obtain ⟨buffers, -, haccounts⟩ := h.accounts hlt hnode
  have hid : id ∈ buffers.outputs := mem_of_bufferOf? haccounts.outputs hout htid
  have hconstant := (haccounts.start_eq hview hid hspans).1
  have hnodup := (haccounts.transient hview hconstant).1
  obtain ⟨i, hi, rfl⟩ := List.getElem_of_mem hout
  obtain ⟨j, hj, rfl⟩ := List.getElem_of_mem hout'
  have hlength := haccounts.outputs.length_eq
  have hget := haccounts.outputs.get hi (by omega)
  have hget' := haccounts.outputs.get hj (by omega)
  simp only [List.get_eq_getElem] at hget hget'
  rw [htid] at hget
  rw [huid] at hget'
  have hij : i = j :=
    (List.getElem_inj hnodup).mp ((Option.some.inj hget).symm.trans (Option.some.inj hget'))
  subst hij
  rfl

end Assignment
end MemoryPlan
