import Mathlib.Data.List.Nodup
import MemoryPlan.Proofs.Graph
/-!
# Executable orders

Validation walks the nodes once and marks what they produce. It accepts exactly the orders in which each node
reads outputs of earlier nodes and each tensor is an output once, which is said here without any walk.
-/

namespace MemoryPlan.Graph

variable {graph : Graph} {node : Node} {position : Nat}

/-- An order of nodes that can run. -/
structure Executable (graph : Graph) : Prop where
  /-- Parameters and constants read nothing and produce one tensor. -/
  sources : ∀ node ∈ graph.nodes, node.kind = .parameter ∨ (∃ data, node.kind = .constant data) →
    node.inputs.length = 0 ∧ node.outputs.length = 1
  /-- Results read one tensor and produce nothing. -/
  results : ∀ node ∈ graph.nodes, node.kind = .result → node.inputs.length = 1 ∧ node.outputs.length = 0
  /-- Views read one tensor and produce one. -/
  views : ∀ node ∈ graph.nodes, (∃ shape, node.kind = .view shape) →
    node.inputs.length = 1 ∧ node.outputs.length = 1
  /-- Every input is described, and an output of a node before the one that reads it. -/
  reads : ∀ (position : Nat) (node : Node), graph.nodes[position]? = some node → ∀ t ∈ node.inputs,
    t.index < graph.tensors.length ∧
      ∃ earlier producer, earlier < position ∧ graph.nodes[earlier]? = some producer ∧ t ∈ producer.outputs
  /-- Every output is described, and occurs once among the outputs of all nodes. -/
  writes : ∀ node ∈ graph.nodes, ∀ t ∈ node.outputs,
    t.index < graph.tensors.length ∧ (graph.nodes.flatMap Node.outputs).count t = 1

/-- What a node needs of the tensors that are produced before it. -/
structure Admits (graph : Graph) (produced : List TensorId) (node : Node) : Prop where
  /-- The numbers of inputs and outputs suit the kind. -/
  arity : node.arityFits = true
  /-- Every input is described and was produced before. -/
  reads : ∀ t ∈ node.inputs, t.index < graph.tensors.length ∧ t ∈ produced
  /-- Every output is described and was not produced before. -/
  writes : ∀ t ∈ node.outputs, t.index < graph.tensors.length ∧ t ∉ produced
  /-- No output is produced twice. -/
  distinct : node.outputs.Nodup

/-- What a node needs depends on the set of produced tensors, not on their order. -/
theorem Admits.congr {produced marked : List TensorId} (h : graph.Admits produced node)
    (hmarked : ∀ t, t ∈ marked ↔ t ∈ produced) : graph.Admits marked node where
  arity := h.arity
  reads := fun t ht => ⟨(h.reads t ht).1, (hmarked t).mpr (h.reads t ht).2⟩
  writes := fun t ht => ⟨(h.writes t ht).1, fun hmem => (h.writes t ht).2 ((hmarked t).mp hmem)⟩
  distinct := h.distinct

/-! ### The check of one node -/

/-- A read is accepted if its tensor is known and was produced. -/
theorem checkRead_eq_ok {produced : List TensorId} {t : TensorId} :
    graph.checkRead produced node position t = .ok () ↔ t.index < graph.tensors.length ∧ t ∈ produced := by
  unfold checkRead
  split
  · next hle => simp [Nat.not_lt.mpr hle]
  · next hlt => split <;> simp_all

/-- A known tensor may be written if it was not produced before. -/
theorem checkWrite_of_new {produced : List TensorId} {t : TensorId} (hlt : t.index < graph.tensors.length)
    (hnew : t ∉ produced) : graph.checkWrite node produced t = .ok (t :: produced) := by
  unfold checkWrite
  rw [if_neg (Nat.not_le.mpr hlt), if_neg hnew]

/-- Described outputs that are new and distinct are all marked: the marks so far never hold the next one. -/
theorem exists_foldlM_checkWrite {produced outputs : List TensorId}
    (hwrites : ∀ t ∈ outputs, t.index < graph.tensors.length ∧ t ∉ produced) (hnodup : outputs.Nodup) :
    ∃ after, outputs.foldlM (graph.checkWrite node) produced = .ok after := by
  cases hfold : outputs.foldlM (graph.checkWrite node) produced with
  | ok after => exact ⟨after, rfl⟩
  | error e =>
    obtain ⟨before, t, after, marked, rfl, hbefore, hfault⟩ := Except.exists_of_foldlM_eq_error hfold
    obtain ⟨hlt, hnew⟩ := hwrites t (by simp)
    have hapart : t ∉ before := fun hmem => (List.nodup_append.mp hnodup).2.2 t hmem t (List.mem_cons_self ..) rfl
    obtain ⟨-, -, hmarked⟩ := foldlM_checkWrite_eq_ok hbefore
    have hunmarked : t ∉ marked := by
      rw [hmarked t]
      exact not_or.mpr ⟨hnew, hapart⟩
    cases (checkWrite_of_new hlt hunmarked).symm.trans hfault

/-- A node passes its check exactly when the tensors produced so far admit it. -/
theorem exists_checkNode_iff {produced : List TensorId} :
    (∃ after, graph.checkNode produced (node, position) = .ok after) ↔ graph.Admits produced node := by
  constructor
  · rintro ⟨after, h⟩
    obtain ⟨harity, -, hfresh, hnodup, -⟩ := checkNode_eq_ok h
    refine ⟨harity, ?_, fun t ht => ⟨?_, hfresh t ht⟩, hnodup⟩
    · intro t ht
      obtain ⟨_, -, h⟩ := Except.bind_eq_ok.mp h
      obtain ⟨_, hreads, -⟩ := Except.bind_eq_ok.mp h
      exact checkRead_eq_ok.mp (Except.forM_eq_ok.mp hreads t ht)
    · obtain ⟨tensor, htensor⟩ := checkNode_describes h ht
      exact (List.getElem?_eq_some_iff.mp htensor).1
  · rintro ⟨harity, hreads, hwrites, hnodup⟩
    obtain ⟨after, hfold⟩ : ∃ after, node.outputs.foldlM (graph.checkWrite node) produced = .ok after :=
      exists_foldlM_checkWrite hwrites hnodup
    have harity : checkArity node = .ok () := if_pos harity
    have hreads : node.inputs.forM (graph.checkRead produced node position) = .ok () :=
      Except.forM_eq_ok.mpr fun t ht => checkRead_eq_ok.mpr (hreads t ht)
    exact ⟨after, Except.bind_eq_ok.mpr ⟨(), harity, Except.bind_eq_ok.mpr ⟨(), hreads, hfold⟩⟩⟩

/-- The whole order passes exactly when each node is admitted by the outputs of those before it. -/
theorem validate_eq_ok_iff :
    graph.validate = .ok () ↔
      ∀ position node, graph.nodes[position]? = some node → graph.Admits (graph.producedBefore position) node := by
  constructor
  · intro hvalid position node hnode
    obtain ⟨produced, next, -, hcheck, hproduced⟩ := exists_checkNode_of_validate hvalid hnode
    exact (exists_checkNode_iff.mp ⟨next, hcheck⟩).congr fun t => (hproduced t).symm
  · intro hadmits
    cases hfold : graph.positioned.foldlM graph.checkNode [] with
    | ok produced => exact Except.bind_eq_ok.mpr ⟨produced, hfold, rfl⟩
    | error e =>
      obtain ⟨before, ⟨node, position⟩, after, produced, hsplit, hbefore, hfault⟩ :=
        Except.exists_of_foldlM_eq_error hfold
      have hstands : graph.positioned[before.length]? = some (node, position) := by
        rw [hsplit, List.getElem?_append_right (Nat.le_refl _), Nat.sub_self, List.getElem?_cons_zero]
      obtain ⟨hnode, rfl⟩ := getElem?_positioned.mp hstands
      have hproduced := mem_produced_iff ⟨_, hsplit.symm⟩ hbefore
      obtain ⟨next, hcheck⟩ : ∃ next, graph.checkNode produced (node, before.length) = .ok next :=
        exists_checkNode_iff.mpr ((hadmits _ node hnode).congr hproduced)
      cases hcheck.symm.trans hfault

/-! ### The condition on all positions -/

/-- All that a graph produces are the outputs of its nodes. -/
theorem producedBefore_length : graph.producedBefore graph.nodes.length = graph.nodes.flatMap Node.outputs := by
  unfold producedBefore
  rw [List.take_length]

/-- The outputs of all nodes: those before a node, its own, and those behind it. -/
theorem outputs_split (hnode : graph.nodes[position]? = some node) :
    graph.nodes.flatMap Node.outputs =
      graph.producedBefore position ++ node.outputs ++ (graph.nodes.drop (position + 1)).flatMap Node.outputs := by
  rw [← producedBefore_succ hnode]
  unfold producedBefore
  rw [← List.flatMap_append, List.take_append_drop]

/-- What was produced before a position is an output of an earlier node. -/
theorem mem_producedBefore {t : TensorId} :
    t ∈ graph.producedBefore position ↔
      ∃ earlier producer, earlier < position ∧ graph.nodes[earlier]? = some producer ∧ t ∈ producer.outputs := by
  refine ⟨exists_of_mem_producedBefore, ?_⟩
  rintro ⟨earlier, producer, hlt, hget, ht⟩
  refine List.mem_flatMap.mpr ⟨producer, List.mem_of_getElem? (i := earlier) ?_, ht⟩
  rw [List.getElem?_take_of_lt hlt]
  exact hget

/-- In a graph that can be executed no tensor is produced twice. -/
theorem nodup_producedBefore
    (h : ∀ position node, graph.nodes[position]? = some node → graph.Admits (graph.producedBefore position) node)
    (hle : position ≤ graph.nodes.length) : (graph.producedBefore position).Nodup := by
  induction position with
  | zero => simp [producedBefore]
  | succ position ih =>
    have hnode := List.getElem?_eq_getElem hle
    have hadmits := h position _ hnode
    rw [producedBefore_succ hnode]
    refine List.nodup_append.mpr ⟨ih (Nat.le_of_succ_le hle), hadmits.distinct, ?_⟩
    rintro t hbefore u hnow rfl
    exact (hadmits.writes t hnow).2 hbefore

/-- Numbers of inputs and outputs that suit the kind, written out by kind. -/
theorem arityFits_iff :
    node.arityFits = true ↔
      (node.kind = .parameter ∨ (∃ data, node.kind = .constant data) →
        node.inputs.length = 0 ∧ node.outputs.length = 1) ∧
      (node.kind = .result → node.inputs.length = 1 ∧ node.outputs.length = 0) ∧
      ((∃ shape, node.kind = .view shape) → node.inputs.length = 1 ∧ node.outputs.length = 1) := by
  unfold Node.arityFits NodeKind.arity?
  cases node.kind <;> simp

/-- Each node is admitted by those before it exactly when the order is executable. -/
theorem forall_admits_iff :
    (∀ position node, graph.nodes[position]? = some node → graph.Admits (graph.producedBefore position) node) ↔
      graph.Executable := by
  constructor
  · intro h
    have hadmits : ∀ node ∈ graph.nodes, ∃ position, graph.Admits (graph.producedBefore position) node := by
      intro node hmem
      obtain ⟨position, hnode⟩ := List.getElem?_of_mem hmem
      exact ⟨position, h position node hnode⟩
    have harity : ∀ node ∈ graph.nodes, node.arityFits = true := by
      intro node hmem
      obtain ⟨position, hnode⟩ := hadmits node hmem
      exact hnode.arity
    have hnodup := nodup_producedBefore h (Nat.le_refl _)
    rw [producedBefore_length] at hnodup
    refine ⟨fun node hmem => (arityFits_iff.mp (harity node hmem)).1,
      fun node hmem => (arityFits_iff.mp (harity node hmem)).2.1,
      fun node hmem => (arityFits_iff.mp (harity node hmem)).2.2, ?_, ?_⟩
    · intro position node hnode t ht
      obtain ⟨hlt, hproduced⟩ := (h position node hnode).reads t ht
      exact ⟨hlt, mem_producedBefore.mp hproduced⟩
    · intro node hmem t ht
      obtain ⟨position, hnode⟩ := hadmits node hmem
      exact ⟨(hnode.writes t ht).1,
        List.count_eq_one_of_mem hnodup (List.mem_flatMap.mpr ⟨node, hmem, ht⟩)⟩
  · intro h position node hnode
    have hmem := List.mem_of_getElem? hnode
    have hnodup : (graph.nodes.flatMap Node.outputs).Nodup := by
      refine List.nodup_iff_count_eq_one.mpr fun t ht => ?_
      obtain ⟨producer, hproducer, ht⟩ := List.mem_flatMap.mp ht
      exact (h.writes producer hproducer t ht).2
    rw [outputs_split hnode] at hnodup
    obtain ⟨-, hdistinct, hapart⟩ := List.nodup_append.mp (List.nodup_append.mp hnodup).1
    refine ⟨arityFits_iff.mpr ⟨h.sources node hmem, h.results node hmem, h.views node hmem⟩, ?_, ?_, hdistinct⟩
    · intro t ht
      obtain ⟨hlt, hproduced⟩ := h.reads position node hnode t ht
      exact ⟨hlt, mem_producedBefore.mpr hproduced⟩
    · intro t ht
      exact ⟨(h.writes node hmem t ht).1, fun hbefore => hapart t hbefore t ht rfl⟩

instance : Decidable graph.Executable :=
  decidable_of_iff (graph.validate = .ok ()) (validate_eq_ok_iff.trans forall_admits_iff)

/-- Validation accepts exactly the executable orders, and refuses every other one as an invalid graph. -/
theorem validate_iff_executable (graph : Graph) :
    (graph.validate = .ok () ↔ graph.Executable) ∧
      (¬ graph.Executable → ∃ cause : GraphCause,
        graph.validate = .error (.invalidGraph cause) ∧ cause.ofOrder = true) := by
  have hiff : graph.validate = .ok () ↔ graph.Executable := validate_eq_ok_iff.trans forall_admits_iff
  refine ⟨hiff, fun hnot => ?_⟩
  cases hvalid : graph.validate with
  | ok _ => exact (hnot (hiff.mp hvalid)).elim
  | error e =>
    obtain ⟨cause, rfl, hcause⟩ := validate_eq_error hvalid
    exact ⟨cause, rfl, hcause⟩

/-- A node cannot read its own output. -/
example :
    ¬ Executable
      { tensors := [{ shape := [], element := .f32 }], nodes := [⟨"loop", .compute "Relu", [⟨0⟩], [⟨0⟩]⟩] } := by
  decide

end MemoryPlan.Graph
