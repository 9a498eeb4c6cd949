import MemoryPlan.Graph
import MemoryPlan.Proofs.Outcome
/-!
# Valid graphs

What the validation of a graph says about each node: every input was produced before, and every output is
produced by this node alone, once.
-/

namespace MemoryPlan

/-- Whether the cause speaks of the order of the nodes: of their arity, their reads and their writes. -/
def GraphCause.ofOrder : GraphCause → Bool
  | arity .. | readTooEarly .. | readsUnknown .. | producedTwice .. | writesUnknown .. => true
  | _ => false

namespace NodeKind

variable {kind : NodeKind}

/-- A view is a node with a shape of its own. -/
theorem isView_iff : kind.isView = true ↔ ∃ shape, kind = .view shape := by
  cases kind <;> simp [isView]

/-- A constant is a node with data of its own. -/
theorem isConstant_iff : kind.isConstant = true ↔ ∃ data, kind = .constant data := by
  cases kind <;> simp [isConstant]

end NodeKind

namespace Graph

variable {graph : Graph} {node : Node} {position : Nat}

/-- The bytes of a tensor; zero if they are not known before running. -/
def bytesOf (graph : Graph) (t : TensorId) : Nat := ((graph.tensor? t).bind Tensor.byteSize).getD 0

/-- The bytes of a tensor, if they are known before running. -/
def size? (graph : Graph) (t : TensorId) : Option Nat := (graph.tensor? t).bind Tensor.byteSize

theorem bytesOf_eq {t : TensorId} {size : Nat} (h : graph.size? t = some size) : graph.bytesOf t = size :=
  congrArg (fun known => known.getD 0) h

/-- The tensors that the nodes before a position produce. -/
def producedBefore (graph : Graph) (position : Nat) : List TensorId :=
  (graph.nodes.take position).flatMap Node.outputs

/-- One more node adds its outputs to what was produced. -/
theorem producedBefore_succ (h : graph.nodes[position]? = some node) :
    graph.producedBefore (position + 1) = graph.producedBefore position ++ node.outputs := by
  obtain ⟨hlt, rfl⟩ := List.getElem?_eq_some_iff.mp h
  unfold producedBefore
  rw [List.take_succ_eq_append_getElem hlt, List.flatMap_append, List.flatMap_singleton]

/-- A tensor that was produced before a position was produced by a node before it. -/
theorem exists_of_mem_producedBefore {t : TensorId} (h : t ∈ graph.producedBefore position) :
    ∃ earlier node, earlier < position ∧ graph.nodes[earlier]? = some node ∧ t ∈ node.outputs := by
  obtain ⟨node, hnode, ht⟩ := List.mem_flatMap.mp h
  obtain ⟨i, hi, rfl⟩ := List.mem_take_iff_getElem.mp hnode
  exact ⟨i, graph.nodes[i], by omega, List.getElem?_eq_getElem _, ht⟩

/-- A node stands at its own position. -/
theorem getElem?_positioned {step : Node × Nat} :
    graph.positioned[position]? = some step ↔ graph.nodes[position]? = some step.1 ∧ step.2 = position := by
  unfold positioned
  rw [List.getElem?_zipIdx]
  obtain ⟨node, i⟩ := step
  cases graph.nodes[position]? with
  | none => simp
  | some other => simp [eq_comm]

/-- The nodes before a position, the node there, and those behind it. -/
theorem positioned_split (h : graph.nodes[position]? = some node) :
    graph.positioned =
      graph.positioned.take position ++ (node, position) :: graph.positioned.drop (position + 1) := by
  have hstep : graph.positioned[position]? = some (node, position) := getElem?_positioned.mpr ⟨h, rfl⟩
  obtain ⟨hlt, hget⟩ := List.getElem?_eq_some_iff.mp hstep
  rw [← hget, ← List.drop_eq_getElem_cons hlt, List.take_append_drop]

/-- A kind with fixed numbers of inputs and outputs has exactly these. -/
theorem lengths_of_arity {inputs outputs : Nat} (hfits : node.arityFits = true)
    (harity : node.kind.arity? = some (inputs, outputs)) :
    node.inputs.length = inputs ∧ node.outputs.length = outputs := by
  unfold Node.arityFits at hfits
  rw [harity] at hfits
  simpa using hfits

/-- A view that suits its kind reads one tensor and writes one. -/
theorem eq_singletons_of_view (hfits : node.arityFits = true) (hview : node.kind.isView = true) :
    ∃ source target, node.inputs = [source] ∧ node.outputs = [target] := by
  have harity : node.kind.arity? = some (1, 1) := by
    obtain ⟨shape, hkind⟩ := NodeKind.isView_iff.mp hview
    rw [hkind]
    rfl
  obtain ⟨hone, hone'⟩ := lengths_of_arity hfits harity
  obtain ⟨source, hsource⟩ := List.length_eq_one_iff.mp hone
  obtain ⟨target, htarget⟩ := List.length_eq_one_iff.mp hone'
  exact ⟨source, target, hsource, htarget⟩

/-- A write that is accepted adds a tensor that was not produced before. -/
theorem checkWrite_eq_ok {produced after : List TensorId} {t : TensorId}
    (h : graph.checkWrite node produced t = .ok after) : t ∉ produced ∧ after = t :: produced := by
  unfold checkWrite at h
  split at h
  · cases h
  · split at h
    · cases h
    · next hnot => exact ⟨hnot, (Except.ok.inj h).symm⟩

/-- The outputs of a checked node are produced by it alone, each once. -/
theorem foldlM_checkWrite_eq_ok {produced after outputs : List TensorId}
    (h : outputs.foldlM (graph.checkWrite node) produced = .ok after) :
    outputs.Nodup ∧ (∀ t ∈ outputs, t ∉ produced) ∧ ∀ t, t ∈ after ↔ t ∈ produced ∨ t ∈ outputs := by
  induction outputs generalizing produced with
  | nil =>
    rw [List.foldlM_nil] at h
    rw [← Except.pure_eq_ok.mp h]
    simp
  | cons t rest ih =>
    rw [List.foldlM_cons] at h
    obtain ⟨between, hwrite, hrest⟩ := Except.bind_eq_ok.mp h
    obtain ⟨hnot, rfl⟩ := checkWrite_eq_ok hwrite
    obtain ⟨hnodup, hfresh, hmem⟩ := ih hrest
    refine ⟨List.nodup_cons.mpr ⟨fun ht => hfresh t ht (List.mem_cons_self ..), hnodup⟩, ?_, ?_⟩
    · intro u hu
      rcases List.mem_cons.mp hu with rfl | hu
      · exact hnot
      · exact fun hp => hfresh u hu (List.mem_cons_of_mem t hp)
    · intro u
      rw [hmem u, List.mem_cons, List.mem_cons]
      grind

/-- What the check of a node says. -/
structure Checked (produced : List TensorId) (node : Node) (after : List TensorId) : Prop where
  /-- The numbers of inputs and outputs suit the kind. -/
  arity : node.arityFits = true
  /-- Every input was produced before. -/
  reads : ∀ t ∈ node.inputs, t ∈ produced
  /-- No output was produced before. -/
  writes : ∀ t ∈ node.outputs, t ∉ produced
  /-- No output is produced twice. -/
  distinct : node.outputs.Nodup
  /-- The outputs are produced now. -/
  after : ∀ t, t ∈ after ↔ t ∈ produced ∨ t ∈ node.outputs

/-- A node that is accepted was checked in all respects. -/
theorem checkNode_eq_ok {produced after : List TensorId} {step : Node × Nat}
    (h : graph.checkNode produced step = .ok after) : Checked produced step.1 after := by
  unfold checkNode at h
  obtain ⟨_, harity, h⟩ := Except.bind_eq_ok.mp h
  obtain ⟨_, hreads, h⟩ := Except.bind_eq_ok.mp h
  obtain ⟨hnodup, hfresh, hmem⟩ := foldlM_checkWrite_eq_ok h
  refine ⟨?_, ?_, hfresh, hnodup, hmem⟩
  · unfold checkArity at harity
    split at harity
    · next hfits => exact hfits
    · cases harity
  · intro t ht
    have hread := Except.forM_eq_ok.mp hreads t ht
    unfold checkRead at hread
    split at hread
    · cases hread
    · split at hread
      · next hmem => exact hmem
      · cases hread

/-- Each output of a checked node is described. -/
theorem checkNode_describes {produced after : List TensorId} {step : Node × Nat}
    (h : graph.checkNode produced step = .ok after) {t : TensorId} (ht : t ∈ step.1.outputs) :
    ∃ tensor, graph.tensor? t = some tensor := by
  unfold checkNode at h
  obtain ⟨_, -, h⟩ := Except.bind_eq_ok.mp h
  obtain ⟨_, -, h⟩ := Except.bind_eq_ok.mp h
  obtain ⟨before, rest, hsplit⟩ := List.append_of_mem ht
  rw [hsplit] at h
  obtain ⟨between, next, -, hwrite⟩ := Except.exists_of_foldlM_eq_ok h
  unfold checkWrite at hwrite
  split at hwrite
  · cases hwrite
  · next hlt => exact ⟨_, List.getElem?_eq_getElem (Nat.lt_of_not_le hlt)⟩

/-- After the check of some nodes, exactly the tensors that they produce are marked. -/
theorem mem_produced_iff {items : List (Node × Nat)} (hitems : items <+: graph.positioned)
    {produced : List TensorId} (h : items.foldlM graph.checkNode [] = .ok produced) (t : TensorId) :
    t ∈ produced ↔ t ∈ graph.producedBefore items.length := by
  refine Except.foldlM_induction
    (motive := fun i produced (_ : List TensorId) => ∀ t, t ∈ produced ↔ t ∈ graph.producedBefore i)
    ?_ h h (by simp [producedBefore]) t
  intro i step produced _ next _ hitem hcheck _ hproduced u
  obtain ⟨rest, hrest⟩ := hitems
  have hstands : graph.positioned[i]? = some step := by
    rw [← hrest, List.getElem?_append_left (List.getElem?_eq_some_iff.mp hitem).1]
    exact hitem
  rw [(checkNode_eq_ok hcheck).after u, producedBefore_succ (getElem?_positioned.mp hstands).1, List.mem_append,
    hproduced u]

theorem length_take_positioned (h : position ≤ graph.nodes.length) :
    (graph.positioned.take position).length = position := by
  unfold positioned
  rw [List.length_take, List.length_zipIdx, Nat.min_eq_left h]

/-- In a valid graph each node passes its check, with the tensors marked that earlier nodes produce. -/
theorem exists_checkNode_of_validate (hvalid : graph.validate = .ok ())
    (hnode : graph.nodes[position]? = some node) :
    ∃ produced next, (graph.positioned.take position).foldlM graph.checkNode [] = .ok produced ∧
      graph.checkNode produced (node, position) = .ok next ∧
      ∀ t, t ∈ produced ↔ t ∈ graph.producedBefore position := by
  obtain ⟨hlt, -⟩ := List.getElem?_eq_some_iff.mp hnode
  obtain ⟨_, hfold, -⟩ := Except.bind_eq_ok.mp hvalid
  rw [positioned_split hnode] at hfold
  obtain ⟨produced, next, hbefore, hcheck⟩ := Except.exists_of_foldlM_eq_ok hfold
  have hproduced := mem_produced_iff (List.take_prefix position graph.positioned) hbefore
  rw [length_take_positioned (Nat.le_of_lt hlt)] at hproduced
  exact ⟨produced, next, hbefore, hcheck, hproduced⟩

/-- A node that is refused makes the order of the nodes invalid. -/
theorem checkNode_eq_error {produced : List TensorId} {step : Node × Nat} {e : PlanError}
    (h : graph.checkNode produced step = .error e) :
    ∃ cause : GraphCause, e = .invalidGraph cause ∧ cause.ofOrder = true := by
  unfold checkNode at h
  obtain harity | ⟨-, -, h⟩ := Except.bind_eq_error.mp h
  · unfold checkArity at harity
    split at harity
    · cases harity
    · exact ⟨_, (Except.error.inj harity).symm, rfl⟩
  · obtain hreads | ⟨-, -, h⟩ := Except.bind_eq_error.mp h
    · obtain ⟨t, -, hread⟩ := Except.exists_of_forM_eq_error hreads
      unfold checkRead at hread
      split at hread
      · exact ⟨_, (Except.error.inj hread).symm, rfl⟩
      · split at hread
        · cases hread
        · exact ⟨_, (Except.error.inj hread).symm, rfl⟩
    · obtain ⟨before, t, after, between, -, -, hwrite⟩ := Except.exists_of_foldlM_eq_error h
      unfold checkWrite at hwrite
      split at hwrite
      · exact ⟨_, (Except.error.inj hwrite).symm, rfl⟩
      · split at hwrite
        · exact ⟨_, (Except.error.inj hwrite).symm, rfl⟩
        · cases hwrite

/-- Validation only ever says that the order of the nodes is invalid. -/
theorem validate_eq_error {e : PlanError} (h : graph.validate = .error e) :
    ∃ cause : GraphCause, e = .invalidGraph cause ∧ cause.ofOrder = true := by
  unfold validate at h
  obtain hfold | ⟨-, -, h⟩ := Except.bind_eq_error.mp h
  · obtain ⟨before, step, after, between, -, -, hnode⟩ := Except.exists_of_foldlM_eq_error hfold
    exact checkNode_eq_error hnode
  · cases h

end Graph
end MemoryPlan
