import MemoryPlan.Proofs.Assignment.Queries
/-!
# Supported graphs

Which graphs get their buffers is told by the graph and the registry alone: the order of the nodes must be valid,
and every node must be supported (`Assignment.Supported`). Otherwise the error is that of the validation, or that
of the first node that is not supported (`Assignment.NodeFault`), and in this node of the first output that does
not fit (`Assignment.OutputFault`). What the walk checks besides never fails.
-/

namespace MemoryPlan.Assignment

section FirstFault

variable {α ε : Type} {good : α → Prop} {fault : α → ε → Prop} {items : List α}

/-- The fault of an item with only good items before it. -/
def FirstFault (good : α → Prop) (fault : α → ε → Prop) (items : List α) (e : ε) : Prop :=
  ∃ before a after, items = before ++ a :: after ∧ (∀ b ∈ before, good b) ∧ fault a e

/-- The item behind the first ones stands at their number. -/
theorem getElem?_of_split {before after : List α} {a : α} (h : items = before ++ a :: after) :
    items[before.length]? = some a ∧ items.take before.length = before := by
  rw [h, List.getElem?_append_right (Nat.le_refl _), Nat.sub_self, List.take_left]
  exact ⟨rfl, rfl⟩

/-- If each item behind good ones is good or has a fault, then all are good, or one of them is the first fault. -/
theorem forall_or_firstFault
    (h : ∀ before a after, items = before ++ a :: after → (∀ b ∈ before, good b) → good a ∨ ∃ e, fault a e) :
    (∀ a ∈ items, good a) ∨ ∃ e, FirstFault good fault items e := by
  induction items with
  | nil => exact Or.inl fun a ha => absurd ha List.not_mem_nil
  | cons a rest ih =>
    rcases h [] a rest rfl (by simp) with hgood | ⟨e, hfault⟩
    · have hcons : ∀ {before : List α}, (∀ b ∈ before, good b) → ∀ b ∈ a :: before, good b :=
        fun hbefore => List.forall_mem_cons.mpr ⟨hgood, hbefore⟩
      have hrest := ih fun before b after hsplit hbefore =>
        h (a :: before) b after (congrArg (a :: ·) hsplit) (hcons hbefore)
      rcases hrest with hall | ⟨e, before, b, after, rfl, hbefore, hfault⟩
      · exact Or.inl (hcons hall)
      · exact Or.inr ⟨e, a :: before, b, after, rfl, hcons hbefore, hfault⟩
    · exact Or.inr ⟨e, [], a, rest, rfl, by simp, hfault⟩

end FirstFault

variable {graph : Graph} {registry : Registry} {node : Node} {position size : Nat} {a : Assignment}
  {inputs : List (BufferId × Nat)} {t : TensorId} {e : PlanError}

/-- An output that can get its buffer. -/
structure OutputFits (graph : Graph) (node : Node) (t : TensorId) : Prop where
  /-- Its size is known before running. -/
  known : (graph.size? t).isSome
  /-- The data of a constant have this size. -/
  constant : ∀ data, node.kind = .constant data → graph.size? t = some data.length
  /-- What a view reads has this size. -/
  view : node.kind.isView = true → ∀ source ∈ node.inputs, graph.size? source = graph.size? t

/-- A node that can get its buffers. -/
structure Supported (graph : Graph) (registry : Registry) (node : Node) : Prop where
  /-- Its type is registered. -/
  registered : registry.has node.kind.typeName = true
  /-- Its outputs can get their buffers. -/
  outputs : ∀ t ∈ node.outputs, OutputFits graph node t

/-- Why an output gets no buffer, and how this is reported. -/
inductive OutputFault (graph : Graph) (node : Node) (t : TensorId) : PlanError → Prop where
  /-- Its size is not known before running. -/
  | unknownSize {tensor : Tensor} (htensor : graph.tensor? t = some tensor) (h : tensor.byteSize = none) :
      OutputFault graph node t (node.unsupported (.unknownSize t))
  /-- The data of a constant have another size. -/
  | constantSize {data : Bytes} {size : Nat} (hkind : node.kind = .constant data)
      (hsize : graph.size? t = some size) (h : data.length ≠ size) :
      OutputFault graph node t (.invalidGraph (.constantSize node.name data.length size))
  /-- What a view reads has another size. -/
  | viewSize {source : TensorId} {sourceSize size : Nat} (hview : node.kind.isView = true)
      (hsource : source ∈ node.inputs) (hsourceSize : graph.size? source = some sourceSize)
      (hsize : graph.size? t = some size) (h : sourceSize ≠ size) :
      OutputFault graph node t (.invalidGraph (.viewSize node.name sourceSize size))

/-- Why a node gets no buffers, and how this is reported. -/
inductive NodeFault (graph : Graph) (registry : Registry) (node : Node) : PlanError → Prop where
  /-- Its type is not registered. -/
  | unregistered (h : registry.has node.kind.typeName = false) :
      NodeFault graph registry node (node.unsupported .unregistered)
  /-- Its type is registered, and this is the first output that gets no buffer. -/
  | output {e : PlanError} (hhas : registry.has node.kind.typeName = true)
      (h : FirstFault (OutputFits graph node) (OutputFault graph node) node.outputs e) :
      NodeFault graph registry node e

/-- What is settled about a node by the validation and by the supported nodes before it. -/
structure Prepared (graph : Graph) (position : Nat) (node : Node) : Prop where
  /-- The numbers of inputs and outputs suit the kind. -/
  arity : node.arityFits = true
  /-- The outputs are described. -/
  described : ∀ t ∈ node.outputs, ∃ tensor, graph.tensor? t = some tensor
  /-- The inputs are outputs of earlier nodes. -/
  produced : ∀ t ∈ node.inputs, t ∈ graph.producedBefore position
  /-- The sizes of the inputs are known. -/
  known : ∀ t ∈ node.inputs, ∃ size, graph.size? t = some size

/-- A node of a valid graph is prepared if all nodes before it are supported. -/
theorem prepared_of_supported (hvalid : graph.validate = .ok ()) (hnode : graph.nodes[position]? = some node)
    (hbefore : ∀ earlier ∈ graph.nodes.take position, Supported graph registry earlier) :
    Prepared graph position node := by
  obtain ⟨produced, next, -, hcheck, hproduced⟩ := Graph.exists_checkNode_of_validate hvalid hnode
  have hchecked := Graph.checkNode_eq_ok hcheck
  have hearlier : ∀ t ∈ node.inputs, t ∈ graph.producedBefore position :=
    fun t ht => (hproduced t).mp (hchecked.reads t ht)
  refine ⟨hchecked.arity, fun t ht => Graph.checkNode_describes hcheck ht, hearlier, ?_⟩
  -- an input is an output of a supported node
  intro t ht
  obtain ⟨earlier, hmem, hout⟩ := List.mem_flatMap.mp (hearlier t ht)
  exact Option.isSome_iff_exists.mp ((hbefore earlier hmem).outputs t hout).known

/-- An output of a constant fits if it has as many bytes as the data. -/
theorem outputFits_of_constant {data : Bytes} (hkind : node.kind = .constant data)
    (hsize : graph.size? t = some data.length) : OutputFits graph node t := by
  refine ⟨Option.isSome_of_eq_some hsize, ?_, ?_⟩
  · intro other hother
    rw [hkind] at hother
    rw [hsize, NodeKind.constant.inj hother]
  · intro hview
    rw [hkind] at hview
    cases hview

/-- An output of a view fits if it has as many bytes as the source. -/
theorem outputFits_of_view {source : TensorId} (hview : node.kind.isView = true) (hinputs : node.inputs = [source])
    (hsource : graph.size? source = some size) (hsize : graph.size? t = some size) : OutputFits graph node t := by
  refine ⟨Option.isSome_of_eq_some hsize, ?_, ?_⟩
  · intro data hdata
    rw [hdata] at hview
    cases hview
  · intro _ other hother
    rw [hinputs, List.mem_singleton] at hother
    rw [hother, hsource, hsize]

/-- An output fits, or there is a reason why it does not. -/
theorem Prepared.fits_or_fault (h : Prepared graph position node) (ht : t ∈ node.outputs) :
    OutputFits graph node t ∨ ∃ e, OutputFault graph node t e := by
  obtain ⟨tensor, htensor⟩ := h.described t ht
  cases hsize : graph.size? t with
  | none =>
    have hunknown : tensor.byteSize = none := by
      unfold Graph.size? at hsize
      rw [htensor] at hsize
      exact hsize
    exact Or.inr ⟨_, .unknownSize htensor hunknown⟩
  | some size =>
    cases hkind : node.kind with
    | constant data =>
      by_cases hlength : data.length = size
      · exact Or.inl (outputFits_of_constant hkind (hlength ▸ hsize))
      · exact Or.inr ⟨_, .constantSize hkind hsize hlength⟩
    | view shape =>
      have hview : node.kind.isView = true := NodeKind.isView_iff.mpr ⟨shape, hkind⟩
      obtain ⟨source, target, hsource, -⟩ := Graph.eq_singletons_of_view h.arity hview
      have hread : source ∈ node.inputs := by
        rw [hsource]
        exact List.mem_singleton_self _
      obtain ⟨sourceSize, hsourceSize⟩ := h.known source hread
      by_cases hsame : sourceSize = size
      · exact Or.inl (outputFits_of_view hview hsource (hsame ▸ hsourceSize) hsize)
      · exact Or.inr ⟨_, .viewSize hview hread hsourceSize hsize hsame⟩
    | _ =>
      refine Or.inl ⟨Option.isSome_of_eq_some hsize, ?_, ?_⟩
      · simp [hkind]
      · simp [hkind, NodeKind.isView]

/-- A node is supported, or there is a reason why it is not. -/
theorem Prepared.supported_or_fault (h : Prepared graph position node) (registry : Registry) :
    Supported graph registry node ∨ ∃ e, NodeFault graph registry node e := by
  cases hhas : registry.has node.kind.typeName with
  | false => exact Or.inr ⟨_, .unregistered hhas⟩
  | true =>
    have houtputs : (∀ t ∈ node.outputs, OutputFits graph node t) ∨
        ∃ e, FirstFault (OutputFits graph node) (OutputFault graph node) node.outputs e := by
      refine forall_or_firstFault ?_
      intro before t after hsplit _
      refine h.fits_or_fault ?_
      rw [hsplit]
      exact List.mem_append_cons_self
    rcases houtputs with hall | ⟨e, hfirst⟩
    · exact Or.inl ⟨hhas, hall⟩
    · exact Or.inr ⟨e, .output hhas hfirst⟩

section Outputs

variable (hprepared : Prepared graph position node)
  (hread : List.Forall₂ (fun t input => graph.size? t = some input.2) node.inputs inputs)
include hprepared hread

/-- A view reads one buffer, of the size of its source. -/
theorem Prepared.view_inputs (hview : node.kind.isView = true) :
    ∃ source input, node.inputs = [source] ∧ inputs = [input] ∧ graph.size? source = some input.2 := by
  obtain ⟨source, target, hsource, -⟩ := Graph.eq_singletons_of_view hprepared.arity hview
  rw [hsource] at hread
  obtain ⟨input, others, hinput, hnil, rfl⟩ := List.forall₂_cons_left_iff.mp hread
  rw [List.forall₂_nil_left_iff.mp hnil]
  exact ⟨source, input, hsource, rfl, hinput⟩

/-- An output that fits gets a buffer. -/
theorem Prepared.outputBuffer_of_fits (h : OutputFits graph node t) (hsize : graph.size? t = some size) :
    ∃ id after, a.outputBuffer node position inputs size = .ok (id, after) := by
  unfold outputBuffer
  cases hkind : node.kind with
  | view kind =>
    have hview : node.kind.isView = true := NodeKind.isView_iff.mpr ⟨kind, hkind⟩
    obtain ⟨source, input, hsource, rfl, hinput⟩ := hprepared.view_inputs hread hview
    have hsame : graph.size? source = graph.size? t := by
      refine h.view hview source ?_
      rw [hsource]
      exact List.mem_singleton_self _
    rw [hinput, hsize] at hsame
    exact ⟨_, _, if_pos (Option.some.inj hsame)⟩
  | constant data =>
    have hlength := h.constant data hkind
    rw [hsize] at hlength
    exact ⟨_, _, if_pos (Option.some.inj hlength).symm⟩
  | _ => exact ⟨_, _, rfl⟩

/-- An output that does not fit is refused for its reason. -/
theorem Prepared.assignOutputs_of_fault (h : OutputFault graph node t e) (rest : List TensorId) :
    assignOutputs graph node position inputs a (t :: rest) = .error e := by
  unfold assignOutputs
  cases h with
  | unknownSize htensor hunknown =>
    refine Except.bind_eq_error.mpr (Or.inl ?_)
    unfold outputSize
    rw [htensor]
    dsimp only
    rw [hunknown]
  | constantSize hkind hsize hlength =>
    refine Except.bind_eq_error.mpr (Or.inr ⟨_, outputSize_eq_ok.mpr hsize, ?_⟩)
    refine Except.bind_eq_error.mpr (Or.inl ?_)
    unfold outputBuffer
    rw [hkind]
    exact if_neg hlength
  | viewSize hview hsource hsourceSize hsize hne =>
    refine Except.bind_eq_error.mpr (Or.inr ⟨_, outputSize_eq_ok.mpr hsize, ?_⟩)
    refine Except.bind_eq_error.mpr (Or.inl ?_)
    obtain ⟨source, input, hinputs, rfl, hinput⟩ := hprepared.view_inputs hread hview
    rw [hinputs, List.mem_singleton] at hsource
    rw [hsource, hinput] at hsourceSize
    obtain rfl := Option.some.inj hsourceSize
    obtain ⟨shape, hkind⟩ := NodeKind.isView_iff.mp hview
    unfold outputBuffer
    rw [hkind]
    exact if_neg hne

/-- Outputs that fit get their buffers, and those behind them get theirs afterwards. -/
theorem Prepared.assignOutputs_append {outputs : List TensorId} (h : ∀ t ∈ outputs, OutputFits graph node t) :
    ∃ made after, ∀ rest, assignOutputs graph node position inputs a (outputs ++ rest) =
      (assignOutputs graph node position inputs after rest).map fun out => (made ++ out.1, out.2) := by
  induction outputs generalizing a with
  | nil =>
    refine ⟨[], a, fun rest => ?_⟩
    rw [List.nil_append]
    cases assignOutputs graph node position inputs a rest <;> rfl
  | cons t outputs ih =>
    obtain ⟨hfits, houtputs⟩ := List.forall_mem_cons.mp h
    obtain ⟨size, hsize⟩ := Option.isSome_iff_exists.mp hfits.known
    obtain ⟨id, between, hbuffer⟩ := hprepared.outputBuffer_of_fits hread (a := a) hfits hsize
    obtain ⟨made, after, hmade⟩ := ih (a := between.bind t id) houtputs
    refine ⟨(id, size) :: made, after, fun rest => ?_⟩
    rw [List.cons_append, assignOutputs, outputSize_eq_ok.mpr hsize]
    change (a.outputBuffer node position inputs size >>= _) = _
    rw [hbuffer]
    change (assignOutputs graph node position inputs (between.bind t id) (outputs ++ rest) >>= _) = _
    rw [hmade rest]
    cases assignOutputs graph node position inputs after rest <;> rfl

/-- Outputs that all fit get their buffers. -/
theorem Prepared.assignOutputs_of_fits (h : ∀ t ∈ node.outputs, OutputFits graph node t) :
    ∃ made after, assignOutputs graph node position inputs a node.outputs = .ok (made, after) := by
  obtain ⟨made, after, hmade⟩ := hprepared.assignOutputs_append hread h
  have hall := hmade []
  rw [List.append_nil] at hall
  exact ⟨_, _, hall⟩

/-- The first output that does not fit is refused for its reason. -/
theorem Prepared.assignOutputs_of_firstFault
    (h : FirstFault (OutputFits graph node) (OutputFault graph node) node.outputs e) :
    assignOutputs graph node position inputs a node.outputs = .error e := by
  obtain ⟨before, t, rest, hsplit, hbefore, hfault⟩ := h
  obtain ⟨made, after, hmade⟩ := hprepared.assignOutputs_append hread hbefore
  rw [hsplit, hmade (t :: rest), hprepared.assignOutputs_of_fault hread hfault rest]
  rfl

end Outputs

/-- A tensor that was produced can be read. -/
theorem Follows.readTensor (h : Follows graph position a) (ht : t ∈ graph.producedBefore position) :
    ∃ input, a.readTensor t = .ok input := by
  obtain ⟨id, hid⟩ := Option.isSome_iff_exists.mp ((h.bound t).mpr ht)
  obtain ⟨x, hx, -⟩ := h.orderly.tensors hid
  refine ⟨(id, x.size), ?_⟩
  unfold Assignment.readTensor
  refine Except.bind_eq_ok.mpr ⟨id, ?_, Except.bind_eq_ok.mpr ⟨x, find_eq_ok.mpr hx, rfl⟩⟩
  unfold bufferOf
  rw [hid]

/-- A prepared node reads its inputs, each with the size of its tensor. -/
theorem Follows.reads (h : Follows graph position a) (hprepared : Prepared graph position node) :
    ∃ inputs, node.inputs.mapM a.readTensor = .ok inputs ∧
      List.Forall₂ (fun t input => graph.size? t = some input.2) node.inputs inputs := by
  obtain ⟨inputs, hinputs⟩ := Except.exists_mapM_eq_ok fun t ht => h.readTensor (hprepared.produced t ht)
  refine ⟨inputs, hinputs, ?_⟩
  have hread := (mapM_readTensor_eq_ok hinputs h.orderly).1
  refine (List.forall₂_iff_get.mpr ⟨hread.length_eq, ?_⟩)
  intro i hi hi'
  obtain ⟨size, hsize⟩ := hprepared.known _ (List.getElem_mem hi)
  have hlisted := (hread.get hi hi').2
  simp only [List.get_eq_getElem] at hlisted ⊢
  rw [hlisted, Graph.bytesOf_eq hsize, hsize]

/-- A node of a registered type gets what its outputs get. -/
theorem assignNode_of_registered (hhas : registry.has node.kind.typeName = true)
    (hinputs : node.inputs.mapM a.readTensor = .ok inputs) :
    assignNode graph registry a (node, position) =
      (assignOutputs graph node position inputs (a.keep (keptTo graph node position) inputs) node.outputs).map
        fun out => out.2.addNode inputs out.1 := by
  unfold assignNode
  dsimp only
  rw [if_pos hhas, hinputs]
  rfl

/-- A supported node gets its buffers. -/
theorem Follows.assignNode_of_supported (h : Follows graph position a) (hprepared : Prepared graph position node)
    (hsupported : Supported graph registry node) :
    ∃ after, assignNode graph registry a (node, position) = .ok after := by
  obtain ⟨inputs, hinputs, hread⟩ := h.reads hprepared
  obtain ⟨made, final, hmade⟩ := hprepared.assignOutputs_of_fits hread hsupported.outputs
  rw [assignNode_of_registered hsupported.registered hinputs, hmade]
  exact ⟨_, rfl⟩

/-- A node that is not supported is refused for its reason. -/
theorem Follows.assignNode_of_fault (h : Follows graph position a) (hprepared : Prepared graph position node)
    (hfault : NodeFault graph registry node e) : assignNode graph registry a (node, position) = .error e := by
  cases hfault with
  | unregistered hnot =>
    unfold assignNode
    dsimp only
    rw [hnot]
    rfl
  | output hhas hfirst =>
    obtain ⟨inputs, hinputs, hread⟩ := h.reads hprepared
    rw [assignNode_of_registered hhas hinputs, hprepared.assignOutputs_of_firstFault hread hfirst]
    rfl

section Walk

variable (hvalid : graph.validate = .ok ())
include hvalid

/-- In a valid graph the walk that reaches a node has settled those before it. -/
theorem follows_of_take (hnode : graph.nodes[position]? = some node)
    (hwalk : (graph.positioned.take position).foldlM (assignNode graph registry) {} = .ok a) :
    Follows graph position a := by
  obtain ⟨hlt, -⟩ := List.getElem?_eq_some_iff.mp hnode
  obtain ⟨produced, next, hchecks, -⟩ := Graph.exists_checkNode_of_validate hvalid hnode
  have hrun := walk_induction (motive := fun _ _ => True) trivial (fun _ _ _ => trivial)
    (List.take_prefix position graph.positioned) hchecks hwalk
  rw [Graph.length_take_positioned (Nat.le_of_lt hlt)] at hrun
  exact hrun.2.1

/-- The walk gets past supported nodes. -/
theorem exists_walk_of_supported (hle : position ≤ graph.nodes.length)
    (hbefore : ∀ node ∈ graph.nodes.take position, Supported graph registry node) :
    ∃ a, (graph.positioned.take position).foldlM (assignNode graph registry) {} = .ok a := by
  induction position with
  | zero => exact ⟨{}, rfl⟩
  | succ position ih =>
    have hlt : position < graph.nodes.length := hle
    have hnode : graph.nodes[position]? = some graph.nodes[position] := List.getElem?_eq_getElem hlt
    rw [List.take_succ_eq_append_getElem hlt] at hbefore
    obtain ⟨hearlier, hself⟩ := List.forall_mem_append.mp hbefore
    obtain ⟨a, ha⟩ := ih (Nat.le_of_lt hlt) hearlier
    obtain ⟨after, hafter⟩ := (follows_of_take hvalid hnode ha).assignNode_of_supported
      (prepared_of_supported hvalid hnode hearlier) (hself _ (List.mem_singleton_self _))
    have hstep : graph.positioned[position]? = some (graph.nodes[position], position) :=
      Graph.getElem?_positioned.mpr ⟨hnode, rfl⟩
    obtain ⟨hlt', hget⟩ := List.getElem?_eq_some_iff.mp hstep
    refine ⟨after, ?_⟩
    rw [List.take_succ_eq_append_getElem hlt', hget, List.foldlM_append]
    exact Except.bind_eq_ok.mpr ⟨a, ha, Except.bind_eq_ok.mpr ⟨after, hafter, rfl⟩⟩

/-- A valid graph gets what the walk gives. -/
theorem ofGraph_of_valid : ofGraph graph registry = graph.positioned.foldlM (assignNode graph registry) {} := by
  unfold ofGraph
  rw [hvalid]
  exact Progress.result_walk ..

/-- A valid graph all of whose nodes are supported is assigned. -/
theorem ofGraph_of_supported (h : ∀ node ∈ graph.nodes, Supported graph registry node) :
    ∃ a, ofGraph graph registry = .ok a := by
  have hall : ∀ node ∈ graph.nodes.take graph.nodes.length, Supported graph registry node := by
    rw [List.take_length]
    exact h
  obtain ⟨a, ha⟩ := exists_walk_of_supported hvalid (Nat.le_refl _) hall
  have hlength : graph.positioned.length = graph.nodes.length := List.length_zipIdx
  rw [← hlength, List.take_length] at ha
  exact ⟨a, (ofGraph_of_valid hvalid).trans ha⟩

/-- The node behind supported ones is prepared, and the walk gets there. -/
theorem exists_walk_of_split {before after : List Node} (hsplit : graph.nodes = before ++ node :: after)
    (hbefore : ∀ earlier ∈ before, Supported graph registry earlier) :
    graph.nodes[before.length]? = some node ∧ Prepared graph before.length node ∧
      ∃ a, (graph.positioned.take before.length).foldlM (assignNode graph registry) {} = .ok a := by
  obtain ⟨hnode, htake⟩ := getElem?_of_split hsplit
  obtain ⟨hlt, -⟩ := List.getElem?_eq_some_iff.mp hnode
  rw [← htake] at hbefore
  exact ⟨hnode, prepared_of_supported hvalid hnode hbefore,
    exists_walk_of_supported hvalid (Nat.le_of_lt hlt) hbefore⟩

/-- A valid graph is refused for the first fault of its nodes. -/
theorem ofGraph_of_firstFault
    (h : FirstFault (Supported graph registry) (NodeFault graph registry) graph.nodes e) :
    ofGraph graph registry = .error e := by
  obtain ⟨before, node, after, hsplit, hbefore, hfault⟩ := h
  obtain ⟨hnode, hprepared, a, ha⟩ := exists_walk_of_split hvalid hsplit hbefore
  have hrefused := (follows_of_take hvalid hnode ha).assignNode_of_fault hprepared hfault
  rw [ofGraph_of_valid hvalid, Graph.positioned_split hnode, List.foldlM_append]
  exact Except.bind_eq_error.mpr (Or.inr ⟨a, ha, Except.bind_eq_error.mpr (Or.inl hrefused)⟩)

/-- All nodes are supported, or some node is the first with a fault. -/
theorem supported_or_firstFault (registry : Registry) :
    (∀ node ∈ graph.nodes, Supported graph registry node) ∨
      ∃ e, FirstFault (Supported graph registry) (NodeFault graph registry) graph.nodes e := by
  refine forall_or_firstFault ?_
  intro before node after hsplit hbefore
  obtain ⟨-, hprepared, -⟩ := exists_walk_of_split hvalid hsplit hbefore
  exact hprepared.supported_or_fault registry

/-- A valid graph is refused for its first fault only. -/
theorem firstFault_of_ofGraph (h : ofGraph graph registry = .error e) :
    FirstFault (Supported graph registry) (NodeFault graph registry) graph.nodes e := by
  rcases supported_or_firstFault hvalid registry with hall | ⟨other, hfirst⟩
  · obtain ⟨a, ha⟩ := ofGraph_of_supported hvalid hall
    cases ha.symm.trans h
  · have hother := ofGraph_of_firstFault hvalid hfirst
    rw [← Except.error.inj (hother.symm.trans h)]
    exact hfirst

end Walk

/-- A graph that got its buffers is valid, and its nodes are supported. -/
theorem supported_of_ofGraph (h : ofGraph graph registry = .ok a) :
    graph.validate = .ok () ∧ ∀ node ∈ graph.nodes, Supported graph registry node := by
  obtain ⟨_, hvalid, -⟩ := Except.bind_eq_ok.mp h
  refine ⟨hvalid, ?_⟩
  rcases supported_or_firstFault hvalid registry with hall | ⟨e, hfirst⟩
  · exact hall
  · cases (ofGraph_of_firstFault hvalid hfirst).symm.trans h

/-- What decides whether a graph gets its buffers, and with which error it is refused. -/
structure Decided (graph : Graph) (registry : Registry) : Prop where
  /-- Exactly the valid graphs of supported nodes get their buffers. -/
  accepts : (∃ a, ofGraph graph registry = .ok a) ↔
    graph.validate = .ok () ∧ ∀ node ∈ graph.nodes, Supported graph registry node
  /-- A graph that is not valid is refused as its validation says, which speaks of the order of the nodes. -/
  invalid : ∀ e, graph.validate = .error e → ofGraph graph registry = .error e ∧
    ∃ cause : GraphCause, e = .invalidGraph cause ∧ cause.ofOrder = true
  /-- A valid graph is refused for the first node that is not supported, and there for the first output. -/
  refuses : graph.validate = .ok () → ∀ e, ofGraph graph registry = .error e ↔
    FirstFault (Supported graph registry) (NodeFault graph registry) graph.nodes e
  /-- No graph is refused because of a buffer that is not there or a view without a source. -/
  defensive : ∀ e, ofGraph graph registry = .error e →
    (∀ id, e ≠ .unknownBuffer id) ∧ (∀ t, e ≠ .invalidGraph (.noBuffer t)) ∧ ∀ cause, e ≠ .internal cause

/-- A graph gets its buffers exactly when it is valid and its nodes are supported, and is refused for the first
reason why this is not so. -/
theorem ofGraph_decided (graph : Graph) (registry : Registry) : Decided graph registry := by
  have hinvalid : ∀ e, graph.validate = .error e → ofGraph graph registry = .error e :=
    fun e he => Except.bind_eq_error.mpr (Or.inl he)
  refine ⟨⟨?_, ?_⟩, ?_, ?_, ?_⟩
  · rintro ⟨a, ha⟩
    exact supported_of_ofGraph ha
  · rintro ⟨hvalid, hall⟩
    exact ofGraph_of_supported hvalid hall
  · exact fun e he => ⟨hinvalid e he, Graph.validate_eq_error he⟩
  · exact fun hvalid e => ⟨firstFault_of_ofGraph hvalid, ofGraph_of_firstFault hvalid⟩
  · intro e he
    -- validation speaks of the order only, and no fault of a node is one of these
    cases hvalid : graph.validate with
    | error other =>
      obtain ⟨cause, hcause, horder⟩ := Graph.validate_eq_error hvalid
      obtain rfl : other = e := Except.error.inj ((hinvalid other hvalid).symm.trans he)
      subst hcause
      refine ⟨by simp, ?_, by simp⟩
      rintro t heq
      rw [PlanError.invalidGraph.inj heq] at horder
      cases horder
    | ok _ =>
      obtain ⟨before, node, after, -, -, hfault⟩ := firstFault_of_ofGraph hvalid he
      cases hfault with
      | unregistered => simp [Node.unsupported]
      | output _ hfirst =>
        obtain ⟨earlier, t, later, -, -, hfault⟩ := hfirst
        cases hfault <;> simp [Node.unsupported]

/-- The first node is refused for its type, although the data of the second one do not fill its tensor. -/
example :
    ofGraph { tensors := [⟨⟨0⟩, [.fixed 2], .u8⟩, ⟨⟨1⟩, [.fixed 2], .u8⟩],
              nodes := [⟨"sum", .compute "Add", [], [⟨0⟩]⟩, ⟨"c", .constant [1], [], [⟨1⟩]⟩] } .structural =
      .error (.unsupportedOperation "sum" "Add" .unregistered) := by
  decide +kernel

end MemoryPlan.Assignment
