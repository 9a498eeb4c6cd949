import MemoryPlan.Proofs.Assignment.Lifespan
import MemoryPlan.Proofs.Assignment.Supported
/-!
# Buffers up to views

The buffers of a finished assignment are the produced tensors up to views. Following the views back from a produced
tensor leads to exactly one root, a tensor that a node of another kind produces (`Graph.LeadsBack`); the roots get
the buffers one by one, in the order of their production (`Assignment.Numbered`); and every other tensor lives in
the buffer of its root.
-/

namespace MemoryPlan

namespace Graph

variable {graph : Graph} {node : Node} {position : Nat} {t : TensorId}

/-- The tensors that nodes other than views produce, in order. -/
def roots (nodes : List Node) : List TensorId :=
  (nodes.filter fun node => !node.kind.isView).flatMap Node.outputs

/-- The views that lead to the tensor lead back to a tensor of a node that is no view. -/
def LeadsBack (graph : Graph) (t root : TensorId) : Prop :=
  graph.SharesBytes root t ∧ ∃ position, graph.Sourced position root

/-- One more node adds its outputs to the roots, unless it is a view. -/
theorem roots_take_succ (h : graph.nodes[position]? = some node) :
    roots (graph.nodes.take (position + 1)) =
      roots (graph.nodes.take position) ++ if node.kind.isView then [] else node.outputs := by
  obtain ⟨hlt, rfl⟩ := List.getElem?_eq_some_iff.mp h
  unfold roots
  rw [List.take_succ_eq_append_getElem hlt, List.filter_append, List.flatMap_append]
  cases hview : graph.nodes[position].kind.isView <;> simp [hview]

/-- A tensor that does not come from a view is a root. -/
theorem mem_roots_of_sourced (h : graph.Sourced position t) : t ∈ roots graph.nodes := by
  obtain ⟨node, hnode, hview, ht⟩ := h
  refine List.mem_flatMap.mpr ⟨node, List.mem_filter.mpr ⟨List.mem_of_getElem? hnode, ?_⟩, ht⟩
  rw [hview]
  rfl

end Graph

namespace Assignment

variable {graph : Graph} {registry : Registry} {node : Node} {position : Nat} {a final : Assignment}
  {inputs made : List (BufferId × Nat)} {id : BufferId} {t u : TensorId} {outputs : List TensorId}

/-- Keeping buffers alive leaves their number. -/
theorem length_keep (a : Assignment) (last : Nat) (inputs : List (BufferId × Nat)) :
    (a.keep last inputs).buffers.length = a.buffers.length := by
  induction inputs generalizing a with
  | nil => rfl
  | cons input rest ih => exact (ih (a.extend input.1 last)).trans (List.length_modify ..)

/-- A view opens no buffer. -/
theorem length_assignOutputs_of_view (hview : node.kind.isView = true)
    (h : assignOutputs graph node position inputs a outputs = .ok (made, final)) :
    final.buffers.length = a.buffers.length := by
  induction outputs generalizing a made with
  | nil =>
    obtain ⟨rfl, rfl⟩ := Prod.mk.inj (Except.ok.inj h)
    rfl
  | cons t rest ih =>
    obtain ⟨size, first, between, others, -, hbuffer, hrest, rfl⟩ := assignOutputs_cons_eq_ok h
    rcases outputBuffer_cases hbuffer with ⟨-, rfl⟩ | ⟨hnot, -⟩
    · have hlater := ih hrest
      exact hlater
    · rw [hview] at hnot
      cases hnot

/-- The outputs of another node get the next buffers, in order. -/
theorem numbers_assignOutputs (hview : node.kind.isView = false)
    (h : assignOutputs graph node position inputs a outputs = .ok (made, final)) :
    made.map Prod.fst = (List.range' a.buffers.length outputs.length).map BufferId.mk ∧
      final.buffers.length = a.buffers.length + outputs.length := by
  induction outputs generalizing a made with
  | nil =>
    obtain ⟨rfl, rfl⟩ := Prod.mk.inj (Except.ok.inj h)
    exact ⟨rfl, rfl⟩
  | cons t rest ih =>
    obtain ⟨size, first, between, others, -, hbuffer, hrest, rfl⟩ := assignOutputs_cons_eq_ok h
    rcases outputBuffer_cases hbuffer with ⟨hnot, -⟩ | ⟨-, content, hpush, -⟩
    · rw [hview] at hnot
      cases hnot
    · obtain ⟨hfirst, hbetween⟩ := Prod.mk.inj hpush
      have hlength : (between.bind t first).buffers.length = a.buffers.length + 1 := by
        rw [hbetween]
        exact List.length_append
      obtain ⟨hnumbers, hfinal⟩ := ih hrest
      rw [hlength] at hnumbers hfinal
      rw [List.map_cons, hnumbers, List.length_cons, List.range'_succ, List.map_cons, hfirst]
      exact ⟨rfl, by omega⟩

/-- Each listed tensor has the buffer listed for it. -/
theorem map_bufferOf? {tensors : List TensorId} {ids : List BufferId}
    (h : List.Forall₂ (fun t id => a.bufferOf? t = some id) tensors ids) :
    tensors.map a.bufferOf? = ids.map some := by
  induction h with
  | nil => rfl
  | cons hbound _ ih => rw [List.map_cons, List.map_cons, hbound, ih]

/-- The roots so far have the buffers so far, one each and in order. -/
def Numbered (graph : Graph) (position : Nat) (a : Assignment) : Prop :=
  (Graph.roots (graph.nodes.take position)).map a.bufferOf? =
    (List.range a.buffers.length).map fun i => some ⟨i⟩

/-- A root so far has a buffer. -/
theorem Numbered.exists_bufferOf? (h : Numbered graph position a)
    (ht : t ∈ Graph.roots (graph.nodes.take position)) : ∃ id, a.bufferOf? t = some id := by
  have hmem : a.bufferOf? t ∈ (List.range a.buffers.length).map fun i => some ⟨i⟩ := by
    rw [← h]
    exact List.mem_map_of_mem ht
  obtain ⟨i, -, hi⟩ := List.mem_map.mp hmem
  exact ⟨⟨i⟩, hi.symm⟩

/-- A node's turn numbers the roots that it produces. -/
theorem Numbered.turn (hnumbered : Numbered graph position a)
    (hturn : Turn graph node position a inputs made final) :
    Numbered graph (position + 1) (final.addNode inputs made) := by
  have hkept := length_keep a (keptTo graph node position) inputs
  have hold : (Graph.roots (graph.nodes.take position)).map final.bufferOf? =
      (List.range a.buffers.length).map fun i => some ⟨i⟩ := by
    rw [← hnumbered]
    refine List.map_congr_left fun t ht => ?_
    obtain ⟨id, hid⟩ := hnumbered.exists_bufferOf? ht
    rw [hid, hturn.grows.tensors hid]
  change (Graph.roots (graph.nodes.take (position + 1))).map final.bufferOf? =
    (List.range final.buffers.length).map fun i => some ⟨i⟩
  rw [Graph.roots_take_succ hturn.stands, List.map_append, hold]
  -- a view adds neither a root nor a buffer; another node adds as many roots as buffers
  cases hview : node.kind.isView with
  | true =>
    rw [length_assignOutputs_of_view hview hturn.outputs, hkept]
    exact List.append_nil _
  | false =>
    obtain ⟨hnumbers, hlength⟩ := numbers_assignOutputs hview hturn.outputs
    have hnew := map_bufferOf? (forall₂_entries hturn.made.tensors).1
    rw [hnumbers, hkept, List.map_map] at hnew
    rw [hlength, hkept, List.range_add, List.map_append]
    simp only [Bool.false_eq_true, if_false]
    rw [hnew, List.range'_eq_map_range, List.map_map, List.map_map]
    rfl

/-- The roots of a graph get the buffers in order, one each. -/
theorem ofGraph_numbered (h : ofGraph graph registry = .ok a) :
    (Graph.roots graph.nodes).map a.bufferOf? = (List.range a.buffers.length).map fun i => some ⟨i⟩ := by
  have hrun := (ofGraph_induction (motive := Numbered graph) rfl
    (fun _ hturn hnumbered => hnumbered.turn hturn) h).2
  unfold Numbered at hrun
  rw [List.take_length] at hrun
  exact hrun

/-- Different roots have different buffers. -/
theorem root_unique (h : ofGraph graph registry = .ok a) (ht : t ∈ Graph.roots graph.nodes)
    (hu : u ∈ Graph.roots graph.nodes) (hsame : a.bufferOf? t = a.bufferOf? u) : t = u := by
  have hnodup : ((Graph.roots graph.nodes).map a.bufferOf?).Nodup := by
    rw [ofGraph_numbered h]
    refine List.nodup_range.map ?_
    intro i j hij
    exact BufferId.mk.inj (Option.some.inj hij)
  exact List.inj_on_of_nodup_map hnodup ht hu hsame

/-- A tensor lives in the buffer of its root. -/
theorem Follows.bufferOf?_leadsBack (h : Follows graph graph.nodes.length a) {root : TensorId}
    (hroot : graph.LeadsBack t root) : a.bufferOf? t = a.bufferOf? root :=
  h.bufferOf?_sharesBytes hroot.1

/-- Two tensors live in one buffer exactly when they have one root. -/
theorem bufferOf?_eq_iff (h : ofGraph graph registry = .ok a) {r s : TensorId} (ht : graph.LeadsBack t r)
    (hu : graph.LeadsBack u s) : a.bufferOf? t = a.bufferOf? u ↔ r = s := by
  have hfollows := ofGraph_follows h
  rw [hfollows.bufferOf?_leadsBack ht, hfollows.bufferOf?_leadsBack hu]
  obtain ⟨-, position, hr⟩ := ht
  obtain ⟨-, position', hs⟩ := hu
  constructor
  · exact root_unique h (Graph.mem_roots_of_sourced hr) (Graph.mem_roots_of_sourced hs)
  · rintro rfl
    rfl

/-- The size of a produced tensor is known. -/
theorem size?_eq_bytesOf (h : ofGraph graph registry = .ok a) (ht : (a.bufferOf? t).isSome) :
    graph.size? t = some (graph.bytesOf t) := by
  obtain ⟨position, node, hnode, hout⟩ := (ofGraph_follows h).isSome_bufferOf?_iff.mp ht
  have hsupported := (supported_of_ofGraph h).2 node (List.mem_of_getElem? hnode)
  obtain ⟨size, hsize⟩ := Option.isSome_iff_exists.mp (hsupported.outputs t hout).known
  rw [Graph.bytesOf_eq hsize, hsize]

/-- The sizes of tensors that were produced. -/
theorem map_size? (h : ofGraph graph registry = .ok a) {tensors : List TensorId}
    (ht : ∀ t ∈ tensors, (a.bufferOf? t).isSome) :
    (tensors.map graph.bytesOf).map some = tensors.map graph.size? := by
  rw [List.map_map]
  exact List.map_congr_left fun t hmem => (size?_eq_bytesOf h (ht t hmem)).symm

/-- The buffer of what a node other than a view produces is constant with some data exactly when these are the data
of the node. -/
theorem Accounts.content_iff {buffers : OperationBuffers} (h : Accounts graph position node a buffers)
    (hview : node.kind.isView = false) (hid : id ∈ buffers.outputs) {x : AssignedBuffer}
    (hx : a.buffer? id = some x) (data : Bytes) : x.content = .constant data ↔ node.kind = .constant data := by
  constructor
  · intro hcontent
    have hkeeps : a.Keeps id data := ⟨x, hx, hcontent⟩
    cases hconstant : node.kind.isConstant with
    | true =>
      obtain ⟨own, hkind⟩ := NodeKind.isConstant_iff.mp hconstant
      obtain ⟨y, hy, hown⟩ := h.constant own hkind id hid
      obtain rfl : x = y := Option.some.inj (hx.symm.trans hy)
      rw [hkind, BufferContent.constant.inj (hown.symm.trans hcontent)]
    | false =>
      obtain ⟨finish, hspans⟩ := (h.transient hview hconstant).2 id hid
      exact absurd hspans hkeeps.not_spans
  · intro hkind
    obtain ⟨y, hy, hcontent⟩ := h.constant data hkind id hid
    obtain rfl : x = y := Option.some.inj (hx.symm.trans hy)
    exact hcontent

/-- The buffers of a node are those of its tensors, in order. -/
structure Lists (graph : Graph) (a : Assignment) (node : Node) (buffers : OperationBuffers) : Prop where
  /-- The node reads the buffers of its inputs. -/
  inputs : buffers.inputs.map some = node.inputs.map a.bufferOf?
  /-- The node writes the buffers of its outputs. -/
  outputs : buffers.outputs.map some = node.outputs.map a.bufferOf?
  /-- The sizes read are those of the inputs. -/
  inputSizes : buffers.inputSizes.map some = node.inputs.map graph.size?
  /-- The sizes written are those of the outputs. -/
  outputSizes : buffers.outputSizes.map some = node.outputs.map graph.size?

/-- The buffers listed for a node are those of its tensors, in order. -/
theorem Accounts.lists {buffers : OperationBuffers} (haccounts : Accounts graph position node a buffers)
    (h : ofGraph graph registry = .ok a) : Lists graph a node buffers where
  inputs := (map_bufferOf? haccounts.inputs).symm
  outputs := (map_bufferOf? haccounts.outputs).symm
  inputSizes := by
    rw [haccounts.inputSizes]
    refine map_size? h fun t ht => ?_
    obtain ⟨id, -, hid⟩ := exists_bufferOf? haccounts.inputs ht
    exact Option.isSome_of_eq_some hid
  outputSizes := by
    rw [haccounts.outputSizes]
    refine map_size? h fun t ht => ?_
    obtain ⟨id, -, hid⟩ := exists_bufferOf? haccounts.outputs ht
    exact Option.isSome_of_eq_some hid

/-- The buffers as the classes of produced tensors that views lead back to one root. -/
structure ViewClasses (graph : Graph) (a : Assignment) : Prop where
  /-- A buffer stands where its number says. -/
  numbered : ∀ (i : Nat) (x : AssignedBuffer), a.buffers[i]? = some x → x.id = ⟨i⟩
  /-- The roots have the buffers, one each and in the order of their production. -/
  dense : (Graph.roots graph.nodes).map a.bufferOf? = (List.range a.buffers.length).map fun i => some ⟨i⟩
  /-- The tensors that nodes produce have buffers, and no others. -/
  bound : ∀ t, (a.bufferOf? t).isSome ↔ ∃ node ∈ graph.nodes, t ∈ node.outputs
  /-- Views lead back from such a tensor to one root. -/
  root : ∀ t, (a.bufferOf? t).isSome → ∃! root, graph.LeadsBack t root
  /-- Tensors share a buffer exactly when they have the same root. -/
  shared : ∀ t u r s, graph.LeadsBack t r → graph.LeadsBack u s → (a.bufferOf? t = a.bufferOf? u ↔ r = s)
  /-- The buffer of a tensor is there with the size of the tensor. It holds constant data exactly when the root comes
  from a constant with these data. -/
  content : ∀ t id, a.bufferOf? t = some id → ∃ x, a.buffers[id.index]? = some x ∧ graph.size? t = some x.size ∧
    ∀ root node, graph.LeadsBack t root → node ∈ graph.nodes → node.kind.isView = false → root ∈ node.outputs →
      ∀ data, x.content = .constant data ↔ node.kind = .constant data
  /-- Every node has buffers. -/
  nodes : a.nodes.length = graph.nodes.length
  /-- They are those of the tensors that the node reads and writes, with the sizes of these tensors. -/
  listed : ∀ position node, graph.nodes[position]? = some node →
    ∃ buffers, a.nodeBuffers? position = some buffers ∧ Lists graph a node buffers

/-- The buffers of a graph are its produced tensors up to views. -/
theorem ofGraph_viewClasses (h : ofGraph graph registry = .ok a) : ViewClasses graph a := by
  have hfollows := ofGraph_follows h
  constructor
  case numbered =>
    intro i x hx
    have hbuffer : a.buffer? ⟨i⟩ = some x := hx
    exact hfollows.orderly.numbered hbuffer
  case dense => exact ofGraph_numbered h
  case bound =>
    intro t
    rw [hfollows.isSome_bufferOf?_iff]
    constructor
    · rintro ⟨position, node, hnode, ht⟩
      exact ⟨node, List.mem_of_getElem? hnode, ht⟩
    · rintro ⟨node, hmem, ht⟩
      obtain ⟨position, hlt, rfl⟩ := List.getElem_of_mem hmem
      exact ⟨position, _, List.getElem?_eq_getElem hlt, ht⟩
  case root =>
    intro t ht
    obtain ⟨position, root, hroot, hshares⟩ := hfollows.exists_source ht
    refine ⟨root, ⟨hshares, position, hroot⟩, ?_⟩
    -- another root of the tensor lives in the same buffer, and a buffer has one root
    intro other hother
    exact (bufferOf?_eq_iff h hother ⟨hshares, position, hroot⟩).mp rfl
  case shared => exact fun t u r s ht hu => bufferOf?_eq_iff h ht hu
  case content =>
    intro t id hid
    obtain ⟨x, hx, hsize⟩ := hfollows.orderly.tensors hid
    refine ⟨x, hx, ?_, ?_⟩
    · rw [hsize]
      exact size?_eq_bytesOf h (Option.isSome_of_eq_some hid)
    · intro root node hroot hmem hview hout data
      obtain ⟨position, hlt, rfl⟩ := List.getElem_of_mem hmem
      obtain ⟨buffers, -, haccounts⟩ := hfollows.accounts hlt (List.getElem?_eq_getElem hlt)
      rw [hfollows.bufferOf?_leadsBack hroot] at hid
      exact haccounts.content_iff hview (mem_of_bufferOf? haccounts.outputs hout hid) hx data
  case nodes => exact hfollows.length
  case listed =>
    intro position node hnode
    obtain ⟨hlt, -⟩ := List.getElem?_eq_some_iff.mp hnode
    obtain ⟨buffers, hbuffers, haccounts⟩ := hfollows.accounts hlt hnode
    exact ⟨buffers, hbuffers, haccounts.lists h⟩

end Assignment

/-- A chain of two views starts at the constant `c`, and one view at the parameter `x`. -/
def Graph.chained : Graph where
  name := "chained"
  tensors := (List.range 5).map fun i => ⟨⟨i⟩, [.fixed 4], .u8⟩
  nodes :=
    [⟨"c", .constant [1, 2, 3, 4], [], [⟨0⟩]⟩, ⟨"v", .view .reshape, [⟨0⟩], [⟨1⟩]⟩, ⟨"x", .parameter, [], [⟨2⟩]⟩,
      ⟨"w", .view .squeeze, [⟨1⟩], [⟨3⟩]⟩, ⟨"y", .view .unsqueeze, [⟨2⟩], [⟨4⟩]⟩, ⟨"out", .result, [⟨4⟩], []⟩]

namespace Assignment

/-- The buffers of the chained views. -/
def chainedBuffers : Assignment := (ofGraph .chained .structural).toOption.get (by decide +kernel)

/-- The end of the chain lives in the buffer of `c`, the view of `x` in another one. -/
theorem ofGraph_viewClasses_chained :
    ofGraph .chained .structural = .ok chainedBuffers ∧ ViewClasses .chained chainedBuffers ∧
      chainedBuffers.bufferOf? ⟨3⟩ = some ⟨0⟩ ∧ chainedBuffers.bufferOf? ⟨4⟩ = some ⟨1⟩ := by
  have hok : ofGraph .chained .structural = .ok chainedBuffers := Except.eq_ok_get _
  refine ⟨hok, ofGraph_viewClasses hok, ?_, ?_⟩
  · decide +kernel
  · decide +kernel

end Assignment
end MemoryPlan
