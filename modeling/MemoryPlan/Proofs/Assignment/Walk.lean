import MemoryPlan.Proofs.Assignment.Extension
import MemoryPlan.Proofs.Graph
/-!
# The walk over a graph

What the walk settles at each node, and that the finished assignment still says it (`Assignment.Accounts`):
the buffers of the node are those of its tensors, with their sizes; what the node reads is alive there and
was produced before; a view shares the buffer of its source, and every other output has a buffer of its own
that starts at the node.
-/

namespace MemoryPlan.Assignment

variable {graph : Graph} {registry : Registry} {node : Node} {position : Nat} {a after : Assignment}
  {inputs : List (BufferId × Nat)}

/-- What holds of every assignment on the way, before the node at a position. -/
structure Orderly (graph : Graph) (position : Nat) (a : Assignment) : Prop where
  /-- A buffer stands at the place that its number names. -/
  numbered : ∀ {id : BufferId} {x : AssignedBuffer}, a.buffer? id = some x → x.id = id
  /-- Constant data fill their buffer. -/
  filled : ∀ {id : BufferId} {x : AssignedBuffer} {data : Bytes},
    a.buffer? id = some x → x.content = .constant data → data.length = x.size
  /-- A transient started at an earlier node and ends at a later one or at that one. -/
  spans : ∀ {id : BufferId} {start finish : Nat},
    a.Spans id start finish → start < position ∧ start ≤ finish ∧ finish ≤ graph.lastPosition
  /-- The buffer of a tensor has the size of the tensor. -/
  tensors : ∀ {t : TensorId} {id : BufferId},
    a.bufferOf? t = some id → ∃ x, a.buffer? id = some x ∧ x.size = graph.bytesOf t

theorem orderly_empty (graph : Graph) : Orderly graph 0 {} := by
  refine ⟨?_, ?_, ?_, ?_⟩
  · intro id x h
    cases h
  · intro id x data h
    cases h
  · rintro id start finish ⟨x, h, -⟩
    cases h
  · intro t id h
    cases h

/-- What is orderly before a node is orderly behind it as well. -/
theorem Orderly.succ (h : Orderly graph position a) : Orderly graph (position + 1) a := by
  refine ⟨h.numbered, h.filled, ?_, h.tensors⟩
  intro id start finish hs
  obtain ⟨hlt, hle, hlast⟩ := h.spans hs
  exact ⟨by omega, hle, hlast⟩

/-- A new buffer is known by its number, with its size and its content. -/
theorem buffer?_push_self (a : Assignment) (size : Nat) (content : BufferContent) :
    (a.push size content).2.buffer? (a.push size content).1 =
      some ⟨(a.push size content).1, size, content⟩ :=
  List.getElem?_concat_length

/-- A buffer after a push was there before, or is the new one. -/
theorem eq_or_of_buffer?_push {id : BufferId} {x : AssignedBuffer} {size : Nat} {content : BufferContent}
    (h : (a.push size content).2.buffer? id = some x) :
    a.buffer? id = some x ∨ id = (a.push size content).1 ∧ x = ⟨(a.push size content).1, size, content⟩ := by
  change (a.buffers ++ [_])[id.index]? = some x at h
  rw [List.getElem?_append] at h
  split at h
  · exact Or.inl h
  · next hlt =>
    obtain ⟨hi, hx⟩ := List.getElem?_eq_some_iff.mp h
    have hindex : id.index = a.buffers.length := by
      have hi' : id.index - a.buffers.length < 1 := hi
      omega
    refine Or.inr ⟨?_, ?_⟩
    · obtain ⟨i⟩ := id
      exact congrArg BufferId.mk hindex
    · rw [← hx]
      exact List.getElem_singleton _

/-- A new buffer keeps the order if its data have its size and its lifespan starts before the
position. -/
theorem Orderly.push (h : Orderly graph position a) {size : Nat} {content : BufferContent}
    (hconstant : ∀ data, content = .constant data → data.length = size)
    (htransient : ∀ start finish, content = .transient start finish →
      start < position ∧ start ≤ finish ∧ finish ≤ graph.lastPosition) :
    Orderly graph position (a.push size content).2 := by
  refine ⟨?_, ?_, ?_, ?_⟩
  · intro id x hx
    rcases eq_or_of_buffer?_push hx with hold | ⟨rfl, rfl⟩
    · exact h.numbered hold
    · rfl
  · intro id x data hx hdata
    rcases eq_or_of_buffer?_push hx with hold | ⟨rfl, rfl⟩
    · exact h.filled hold hdata
    · exact hconstant data hdata
  · rintro id start finish ⟨x, hx, hcontent⟩
    rcases eq_or_of_buffer?_push hx with hold | ⟨rfl, rfl⟩
    · exact h.spans ⟨x, hold, hcontent⟩
    · exact htransient start finish hcontent
  · intro t id ht
    obtain ⟨x, hx, hsize⟩ := h.tensors ht
    exact ⟨x, buffer?_push size content hx, hsize⟩

/-- A lifespan may be extended up to the last position. -/
theorem Orderly.extend (h : Orderly graph position a) (id : BufferId) {last : Nat}
    (hlast : last ≤ graph.lastPosition) : Orderly graph position (a.extend id last) := by
  have hback : ∀ {other y}, (a.extend id last).buffer? other = some y →
      ∃ x, a.buffer? other = some x ∧ (y = x ∨ y = x.extended last) := by
    intro other y hy
    rw [buffer?_extend] at hy
    split at hy
    · obtain ⟨x, hx, rfl⟩ := Option.map_eq_some_iff.mp hy
      exact ⟨x, hx, Or.inr rfl⟩
    · exact ⟨y, hy, Or.inl rfl⟩
  refine ⟨?_, ?_, ?_, ?_⟩
  · intro other y hy
    obtain ⟨x, hx, hor⟩ := hback hy
    have hid : y.id = x.id := by
      rcases hor with rfl | rfl
      · rfl
      · exact (x.grows_extended last).id
    rw [hid]
    exact h.numbered hx
  · intro other y data hy hdata
    obtain ⟨x, hx, rfl | rfl⟩ := hback hy
    · exact h.filled hx hdata
    · cases hcontent : x.content with
      | constant other =>
        rw [AssignedBuffer.extended_of_constant hcontent] at hdata ⊢
        exact h.filled hx hdata
      | transient start finish =>
        rw [AssignedBuffer.extended_of_transient hcontent] at hdata
        cases hdata
  · rintro other start finish ⟨y, hy, hspan⟩
    obtain ⟨x, hx, rfl | rfl⟩ := hback hy
    · exact h.spans ⟨_, hx, hspan⟩
    · cases hcontent : x.content with
      | constant other =>
        rw [AssignedBuffer.extended_of_constant hcontent, hcontent] at hspan
        cases hspan
      | transient start' finish' =>
        rw [AssignedBuffer.extended_of_transient hcontent] at hspan
        obtain ⟨rfl, rfl⟩ := BufferContent.transient.inj hspan
        obtain ⟨hstart, hle, hfinish⟩ := h.spans ⟨_, hx, hcontent⟩
        exact ⟨hstart, by omega, by omega⟩
  · intro t other ht
    obtain ⟨x, hx, hsize⟩ := h.tensors ht
    obtain ⟨y, hy, hgrows⟩ := (extends_extend a id last).buffers hx
    exact ⟨y, hy, hgrows.size.trans hsize⟩

/-- A tensor may be bound to a buffer of its size. -/
theorem Orderly.bind (h : Orderly graph position a) {t : TensorId} {id : BufferId} {x : AssignedBuffer}
    (hx : a.buffer? id = some x) (hsize : x.size = graph.bytesOf t) :
    Orderly graph position (a.bind t id) := by
  refine ⟨h.numbered, h.filled, h.spans, ?_⟩
  intro other known hknown
  change ((t, id) :: a.tensors).lookup other = some known at hknown
  rw [List.lookup_cons] at hknown
  split at hknown
  · next heq =>
    obtain rfl := Option.some.inj hknown
    rw [LawfulBEq.eq_of_beq heq]
    exact ⟨x, hx, hsize⟩
  · exact h.tensors hknown

theorem bufferOf?_bind_self (a : Assignment) (t : TensorId) (id : BufferId) :
    (a.bind t id).bufferOf? t = some id := by
  change ((t, id) :: a.tensors).lookup t = some id
  rw [List.lookup_cons, beq_self_eq_true]

/-- Binding a tensor leaves the buffers of all others. -/
theorem bufferOf?_bind_of_ne {t u : TensorId} (h : u ≠ t) (id : BufferId) :
    (a.bind t id).bufferOf? u = a.bufferOf? u := by
  change ((t, id) :: a.tensors).lookup u = a.bufferOf? u
  rw [List.lookup_cons, beq_false_of_ne h]
  rfl

/-- Where the buffer of an output comes from, between two assignments of the walk. -/
structure Origin (node : Node) (position : Nat) (inputs : List (BufferId × Nat)) (a after : Assignment)
    (output : BufferId × Nat) : Prop where
  /-- A view shares the buffer of its source. -/
  view : node.kind.isView = true → inputs.head? = some output
  /-- A constant has a buffer with its data. -/
  constant : ∀ {data : Bytes}, node.kind = .constant data → after.Keeps output.1 data
  /-- Every other output has a new buffer that starts at the node. -/
  transient : node.kind.isView = false → node.kind.isConstant = false →
    a.buffers.length ≤ output.1.index ∧ ∃ finish, after.Spans output.1 position finish

/-- Where an output comes from stays true with fewer buffers before it and more behind it. -/
theorem Origin.mono {b after' : Assignment} {output : BufferId × Nat}
    (h : Origin node position inputs b after output) (hle : a.buffers.length ≤ b.buffers.length)
    (hext : after.Extends after') : Origin node position inputs a after' output := by
  refine ⟨h.view, fun hdata => hext.keeps (h.constant hdata), ?_⟩
  intro hview hconstant
  obtain ⟨hnew, finish, hspans⟩ := h.transient hview hconstant
  obtain ⟨later, hlater, -⟩ := hext.spans hspans
  exact ⟨Nat.le_trans hle hnew, later, hlater⟩

/-- An output has a size exactly when that of its tensor is known. -/
theorem outputSize_eq_ok {t : TensorId} {size : Nat} :
    outputSize graph node t = .ok size ↔ graph.size? t = some size := by
  unfold outputSize Graph.size?
  cases graph.tensor? t with
  | none => simp
  | some tensor => cases htensor : tensor.byteSize <;> simp [htensor]

/-- What one output gets. -/
structure OutputAssigned (graph : Graph) (node : Node) (position : Nat) (inputs : List (BufferId × Nat))
    (a : Assignment) (output : BufferId × Nat) (after : Assignment) : Prop where
  /-- Nothing is taken away. -/
  grows : a.Extends after
  /-- The assignment stays in order. -/
  orderly : Orderly graph (position + 1) after
  /-- The buffers of the nodes stay. -/
  nodes : after.nodes = a.nodes
  /-- No tensor gets its buffer yet. -/
  tensors : after.tensors = a.tensors
  /-- The output has a buffer of its size. -/
  buffer : ∃ x, after.buffer? output.1 = some x ∧ x.size = output.2
  /-- The buffer comes from where the kind of the node says. -/
  origin : Origin node position inputs a after output
  /-- A new buffer is the only new one. -/
  length : output.1.index < after.buffers.length ∧ a.buffers.length ≤ after.buffers.length

/-- A known buffer has a number below the number of buffers. -/
theorem lt_length_of_buffer? {id : BufferId} {x : AssignedBuffer} (h : a.buffer? id = some x) :
    id.index < a.buffers.length := by
  obtain ⟨hlt, -⟩ := List.getElem?_eq_some_iff.mp h
  exact hlt

/-- A new buffer with content that suits the node. -/
theorem outputAssigned_push (ho : Orderly graph (position + 1) a) {size : Nat} {content : BufferContent}
    (hview : node.kind.isView = false)
    (hconstant : ∀ data, content = .constant data → data.length = size)
    (htransient : ∀ start finish, content = .transient start finish →
      start < position + 1 ∧ start ≤ finish ∧ finish ≤ graph.lastPosition)
    (horigin : ∀ data, node.kind = .constant data → content = .constant data)
    (hother : node.kind.isConstant = false → content = .transient position position) :
    OutputAssigned graph node position inputs a ((a.push size content).1, size) (a.push size content).2 := by
  have hself := buffer?_push_self a size content
  have hlength : (a.push size content).2.buffers.length = a.buffers.length + 1 := List.length_append
  refine ⟨extends_push a size content, ho.push hconstant htransient, rfl, rfl, ⟨_, hself, rfl⟩, ?_, ?_⟩
  · refine ⟨?_, ?_, ?_⟩
    · intro h
      rw [hview] at h
      cases h
    · intro data hdata
      exact ⟨_, hself, horigin data hdata⟩
    · intro _ hkind
      exact ⟨Nat.le_refl _, position, _, hself, hother hkind⟩
  · exact ⟨lt_length_of_buffer? hself, by omega⟩

/-- The buffer that is found for an output is assigned to it as the node says. -/
theorem outputBuffer_eq_ok (hlast : position ≤ graph.lastPosition) (ho : Orderly graph (position + 1) a)
    (hinputs : a.Sized inputs) {size : Nat}
    {id : BufferId} (h : a.outputBuffer node position inputs size = .ok (id, after)) :
    OutputAssigned graph node position inputs a (id, size) after := by
  have hnew : ∀ start finish, BufferContent.transient position position = .transient start finish →
      start < position + 1 ∧ start ≤ finish ∧ finish ≤ graph.lastPosition := by
    intro start finish heq
    obtain ⟨rfl, rfl⟩ := BufferContent.transient.inj heq
    exact ⟨by omega, Nat.le_refl _, hlast⟩
  unfold outputBuffer at h
  split at h
  · next hkind =>
    split at h
    · cases h
    · next source sourceSize rest =>
      split at h
      · next hsize =>
        obtain ⟨rfl, rfl⟩ := Prod.mk.inj (Except.ok.inj h)
        subst hsize
        obtain ⟨x, hx, hxsize⟩ := hinputs (source, sourceSize) (List.mem_cons_self ..)
        refine ⟨.refl a, ho, rfl, rfl, ⟨x, hx, hxsize⟩, ⟨fun _ => rfl, ?_, ?_⟩, ?_⟩
        · intro data hdata
          rw [hkind] at hdata
          cases hdata
        · intro hview
          rw [hkind] at hview
          cases hview
        · exact ⟨lt_length_of_buffer? hx, Nat.le_refl _⟩
      · cases h
  · next data hkind =>
    split at h
    · next hsize =>
      obtain ⟨rfl, rfl⟩ := Prod.mk.inj (Except.ok.inj h)
      apply outputAssigned_push ho
      · rw [hkind]
        rfl
      · intro other hother
        rw [← BufferContent.constant.inj hother]
        exact hsize
      · intro start finish heq
        cases heq
      · intro other hother
        rw [hkind] at hother
        rw [NodeKind.constant.inj hother]
      · intro hnot
        rw [hkind] at hnot
        cases hnot
    · cases h
  · next hview hconstant =>
    obtain ⟨rfl, rfl⟩ := Prod.mk.inj (Except.ok.inj h)
    apply outputAssigned_push ho
    · cases hkind : node.kind with
      | view kind => exact (hview kind hkind).elim
      | _ => rfl
    · intro data hdata
      cases hdata
    · exact hnew
    · intro data hkind
      exact (hconstant data hkind).elim
    · intro _
      rfl

/-- What all outputs of a node get. -/
structure OutputsAssigned (graph : Graph) (node : Node) (position : Nat) (inputs : List (BufferId × Nat))
    (a : Assignment) (outputs : List TensorId) (made : List (BufferId × Nat)) (after : Assignment) :
    Prop where
  /-- Nothing is taken away. -/
  grows : a.Extends after
  /-- The assignment stays in order. -/
  orderly : Orderly graph (position + 1) after
  /-- The buffers of the nodes stay. -/
  nodes : after.nodes = a.nodes
  /-- The outputs get buffers, and no other tensor does. -/
  bound : ∀ t, (after.bufferOf? t).isSome ↔ (a.bufferOf? t).isSome ∨ t ∈ outputs
  /-- Each output gets a buffer of its size. -/
  tensors : List.Forall₂ (fun t output => after.bufferOf? t = some output.1 ∧ output.2 = graph.bytesOf t)
    outputs made
  /-- The buffers come from where the kind of the node says. -/
  origin : ∀ output ∈ made, Origin node position inputs a after output
  /-- New buffers are different. -/
  distinct : node.kind.isView = false → node.kind.isConstant = false → (made.map Prod.fst).Nodup
  /-- No buffer is taken away. -/
  length : a.buffers.length ≤ after.buffers.length

/-- The first output gets its buffer before the others. -/
theorem assignOutputs_cons_eq_ok {t : TensorId} {rest : List TensorId} {made : List (BufferId × Nat)}
    (h : assignOutputs graph node position inputs a (t :: rest) = .ok (made, after)) :
    ∃ size id between others, outputSize graph node t = .ok size ∧
      a.outputBuffer node position inputs size = .ok (id, between) ∧
      assignOutputs graph node position inputs (between.bind t id) rest = .ok (others, after) ∧
      made = (id, size) :: others := by
  obtain ⟨size, hsize, h⟩ := Except.bind_eq_ok.mp h
  obtain ⟨⟨id, between⟩, hbuffer, h⟩ := Except.bind_eq_ok.mp h
  obtain ⟨⟨others, final⟩, hrest, h⟩ := Except.bind_eq_ok.mp h
  obtain ⟨rfl, rfl⟩ := Prod.mk.inj (Except.pure_eq_ok.mp h)
  exact ⟨size, id, between, others, hsize, hbuffer, hrest, rfl⟩

/-- The buffers that are found for several outputs are assigned to them, each as the node says. -/
theorem assignOutputs_eq_ok (hlast : position ≤ graph.lastPosition) {outputs : List TensorId}
    {made : List (BufferId × Nat)} (ho : Orderly graph (position + 1) a)
    (hinputs : a.Sized inputs)
    (hfresh : ∀ t ∈ outputs, a.bufferOf? t = none) (hnodup : outputs.Nodup)
    (h : assignOutputs graph node position inputs a outputs = .ok (made, after)) :
    OutputsAssigned graph node position inputs a outputs made after := by
  induction outputs generalizing a made with
  | nil =>
    obtain ⟨rfl, rfl⟩ := Prod.mk.inj (Except.ok.inj h)
    exact ⟨.refl a, ho, rfl, by simp, .nil, by simp, fun _ _ => List.nodup_nil, Nat.le_refl _⟩
  | cons t rest ih =>
    obtain ⟨size, id, between, others, hsize, hbuffer, hrest, rfl⟩ := assignOutputs_cons_eq_ok h
    obtain ⟨hnot, hnodup⟩ := List.nodup_cons.mp hnodup
    have first := outputBuffer_eq_ok hlast ho hinputs hbuffer
    have hsize : size = graph.bytesOf t := (Graph.bytesOf_eq (outputSize_eq_ok.mp hsize)).symm
    obtain ⟨x, hx, hxsize⟩ := first.buffer
    have hunbound : between.bufferOf? t = none := by
      rw [bufferOf?_congr first.tensors]
      exact hfresh t (List.mem_cons_self ..)
    have hbind : between.Extends (between.bind t id) := extends_bind hunbound id
    have horderly : Orderly graph (position + 1) (between.bind t id) :=
      first.orderly.bind hx (hxsize.trans hsize)
    have hinputs' : (between.bind t id).Sized inputs := hbind.sized (first.grows.sized hinputs)
    have hfresh' : ∀ u ∈ rest, (between.bind t id).bufferOf? u = none := by
      intro u hu
      have hne : u ≠ t := by
        rintro rfl
        exact hnot hu
      rw [bufferOf?_bind_of_ne hne, bufferOf?_congr first.tensors]
      exact hfresh u (List.mem_cons_of_mem t hu)
    have more := ih horderly hinputs' hfresh' hnodup hrest
    have hgrows : between.Extends after := hbind.trans more.grows
    have hbound : ∀ u, ((between.bind t id).bufferOf? u).isSome ↔ (a.bufferOf? u).isSome ∨ u = t := by
      intro u
      by_cases hut : u = t
      · rw [hut, bufferOf?_bind_self]
        simp
      · rw [bufferOf?_bind_of_ne hut, bufferOf?_congr first.tensors]
        simp [hut]
    refine ⟨first.grows.trans hgrows, more.orderly, more.nodes.trans first.nodes, ?_, ?_, ?_, ?_, ?_⟩
    · intro u
      rw [more.bound u, hbound u, List.mem_cons, or_assoc]
    · exact .cons ⟨more.grows.tensors (bufferOf?_bind_self ..), hsize⟩ more.tensors
    · intro output houtput
      rcases List.mem_cons.mp houtput with rfl | houtput
      · exact first.origin.mono (Nat.le_refl _) hgrows
      · exact (more.origin output houtput).mono first.length.2 (.refl after)
    · intro hview hconstant
      refine List.nodup_cons.mpr ⟨?_, more.distinct hview hconstant⟩
      intro hmem
      obtain ⟨other, hother, heq⟩ := List.mem_map.mp hmem
      have hnew := ((more.origin other hother).transient hview hconstant).1
      have hold : id.index < between.buffers.length := first.length.1
      rw [heq] at hnew
      exact absurd hnew (Nat.not_le.mpr hold)
    · exact Nat.le_trans first.length.2 more.length

/-- A tensor that is read has a buffer, and the size read is that of the buffer. -/
theorem readTensor_eq_ok {t : TensorId} {input : BufferId × Nat} (h : a.readTensor t = .ok input) :
    a.bufferOf? t = some input.1 ∧ ∃ x, a.buffer? input.1 = some x ∧ x.size = input.2 := by
  obtain ⟨id, hid, h⟩ := Except.bind_eq_ok.mp h
  obtain ⟨x, hx, h⟩ := Except.bind_eq_ok.mp h
  obtain rfl := Except.pure_eq_ok.mp h
  constructor
  · unfold bufferOf at hid
    split at hid
    · next known hknown =>
      rw [hknown]
      exact congrArg some (Except.ok.inj hid)
    · cases hid
  · unfold find at hx
    split at hx
    · next buffer hbuffer =>
      exact ⟨x, hbuffer.trans (congrArg some (Except.ok.inj hx)), rfl⟩
    · cases hx

/-- A buffer that is kept alive to a position ends no earlier. -/
theorem le_of_spans_extend {id : BufferId} {last start finish : Nat}
    (h : (a.extend id last).Spans id start finish) : last ≤ finish := by
  obtain ⟨y, hy, hspan⟩ := h
  rw [buffer?_extend, if_pos rfl] at hy
  obtain ⟨x, -, rfl⟩ := Option.map_eq_some_iff.mp hy
  cases hcontent : x.content with
  | constant data =>
    rw [AssignedBuffer.extended_of_constant hcontent, hcontent] at hspan
    cases hspan
  | transient start' finish' =>
    rw [AssignedBuffer.extended_of_transient hcontent] at hspan
    obtain ⟨-, rfl⟩ := BufferContent.transient.inj hspan
    exact Nat.le_max_right _ _

/-- Buffers kept alive to a position, one after the other. -/
def keep (a : Assignment) (last : Nat) (inputs : List (BufferId × Nat)) : Assignment :=
  inputs.foldl (fun a input => a.extend input.1 last) a

/-- Keeping buffers alive gives no tensor another buffer. -/
theorem bufferOf?_keep (a : Assignment) (last : Nat) (inputs : List (BufferId × Nat)) (t : TensorId) :
    (a.keep last inputs).bufferOf? t = a.bufferOf? t := by
  induction inputs generalizing a with
  | nil => rfl
  | cons input rest ih => exact ih (a.extend input.1 last)

/-- Keeping buffers alive only makes lifespans longer. -/
theorem keep_spec {last : Nat} (hlast : last ≤ graph.lastPosition) (ho : Orderly graph position a)
    (hinputs : a.Sized inputs) :
    a.Extends (a.keep last inputs) ∧ Orderly graph position (a.keep last inputs) ∧
      (a.keep last inputs).nodes = a.nodes ∧
      ∀ input ∈ inputs, ∀ start finish, (a.keep last inputs).Spans input.1 start finish → last ≤ finish := by
  induction inputs generalizing a with
  | nil => exact ⟨.refl a, ho, rfl, by simp⟩
  | cons input rest ih =>
    have hext := extends_extend a input.1 last
    have hinputs' : (a.extend input.1 last).Sized (input :: rest) := hext.sized hinputs
    obtain ⟨hgrows, horderly, hnodes, hlate⟩ :=
      ih (ho.extend input.1 hlast) fun other hother => hinputs' other (List.mem_cons_of_mem _ hother)
    refine ⟨hext.trans hgrows, horderly, hnodes, ?_⟩
    intro other hother start finish hspans
    rcases List.mem_cons.mp hother with rfl | hother
    · obtain ⟨x, hx, -⟩ := hinputs' other (List.mem_cons_self ..)
      obtain ⟨earlier, hearlier, hle⟩ := hgrows.spans_of_spans hx hspans
      exact Nat.le_trans (le_of_spans_extend hearlier) hle
    · exact hlate other hother start finish hspans

/-- What an assignment says about a node of a graph. -/
structure Accounts (graph : Graph) (position : Nat) (node : Node) (a : Assignment)
    (buffers : OperationBuffers) : Prop where
  /-- The numbers of inputs and outputs suit the kind. -/
  arity : node.arityFits = true
  /-- The node reads the buffers of its inputs. -/
  inputs : List.Forall₂ (fun t id => a.bufferOf? t = some id) node.inputs buffers.inputs
  /-- The node writes the buffers of its outputs. -/
  outputs : List.Forall₂ (fun t id => a.bufferOf? t = some id) node.outputs buffers.outputs
  /-- The inputs have the sizes of their tensors. -/
  inputSizes : buffers.inputSizes = node.inputs.map graph.bytesOf
  /-- The outputs have the sizes of their tensors. -/
  outputSizes : buffers.outputSizes = node.outputs.map graph.bytesOf
  /-- Every input was produced before. -/
  produced : ∀ t ∈ node.inputs, t ∈ graph.producedBefore position
  /-- No output was produced before. -/
  fresh : ∀ t ∈ node.outputs, t ∉ graph.producedBefore position
  /-- No output is produced twice. -/
  distinct : node.outputs.Nodup
  /-- What the node reads started before and is alive at the node. -/
  reads : ∀ id ∈ buffers.inputs, ∀ start finish, a.Spans id start finish →
    start < position ∧ position ≤ finish
  /-- A view shares the buffer of its source. -/
  view : node.kind.isView = true → buffers.outputs = buffers.inputs
  /-- A constant has a buffer with its data. -/
  constant : ∀ data, node.kind = .constant data → ∀ id ∈ buffers.outputs, a.Keeps id data
  /-- Every other output has a buffer of its own that starts at the node. -/
  transient : node.kind.isView = false → node.kind.isConstant = false →
    buffers.outputs.Nodup ∧ ∀ id ∈ buffers.outputs, ∃ finish, a.Spans id position finish

/-- The buffer of a listed tensor is listed. -/
theorem mem_of_bufferOf? {tensors : List TensorId} {ids : List BufferId}
    (h : List.Forall₂ (fun t id => a.bufferOf? t = some id) tensors ids) {t : TensorId} (ht : t ∈ tensors)
    {id : BufferId} (hid : a.bufferOf? t = some id) : id ∈ ids := by
  induction h with
  | nil => cases ht
  | cons hbound _ ih =>
    rcases List.mem_cons.mp ht with rfl | ht
    · rw [hbound] at hid
      rw [Option.some.inj hid]
      exact List.mem_cons_self ..
    · exact List.mem_cons_of_mem _ (ih ht)

/-- A transient buffer that a node other than a view writes starts at the node, which is no constant. -/
theorem Accounts.start_eq {buffers : OperationBuffers} (h : Accounts graph position node a buffers)
    (hview : node.kind.isView = false) {id : BufferId} (hid : id ∈ buffers.outputs) {start finish : Nat}
    (hspans : a.Spans id start finish) : node.kind.isConstant = false ∧ start = position := by
  cases hconstant : node.kind.isConstant with
  | true =>
    obtain ⟨data, hkind⟩ := NodeKind.isConstant_iff.mp hconstant
    exact absurd hspans (h.constant data hkind id hid).not_spans
  | false =>
    obtain ⟨known, hknown⟩ := (h.transient hview hconstant).2 id hid
    exact ⟨rfl, (hspans.unique hknown).1⟩

/-- No output of a node lives in a buffer that starts after the node. -/
theorem Accounts.start_le {buffers : OperationBuffers} (h : Accounts graph position node a buffers)
    {id : BufferId} (hid : id ∈ buffers.outputs) {start finish : Nat} (hspans : a.Spans id start finish) :
    start ≤ position := by
  cases hview : node.kind.isView with
  | true =>
    rw [h.view hview] at hid
    exact Nat.le_of_lt (h.reads id hid start finish hspans).1
  | false => exact Nat.le_of_eq (h.start_eq hview hid hspans).2

/-- What was settled about a node stays settled. -/
theorem Accounts.mono {b : Assignment} {buffers : OperationBuffers}
    (h : Accounts graph position node a buffers)
    (hknown : ∀ id ∈ buffers.inputs, ∃ x, a.buffer? id = some x) (hext : a.Extends b) :
    Accounts graph position node b buffers where
  arity := h.arity
  inputs := h.inputs.imp fun _ _ => hext.tensors
  outputs := h.outputs.imp fun _ _ => hext.tensors
  inputSizes := h.inputSizes
  outputSizes := h.outputSizes
  produced := h.produced
  fresh := h.fresh
  distinct := h.distinct
  reads := by
    intro id hid start finish hspans
    obtain ⟨x, hx⟩ := hknown id hid
    obtain ⟨earlier, hearlier, hle⟩ := hext.spans_of_spans hx hspans
    obtain ⟨hstart, hfinish⟩ := h.reads id hid start earlier hearlier
    exact ⟨hstart, Nat.le_trans hfinish hle⟩
  view := h.view
  constant := fun data hdata id hid => hext.keeps (h.constant data hdata id hid)
  transient := by
    intro hview hconstant
    obtain ⟨hnodup, hspans⟩ := h.transient hview hconstant
    refine ⟨hnodup, ?_⟩
    intro id hid
    obtain ⟨finish, hfinish⟩ := hspans id hid
    obtain ⟨later, hlater, -⟩ := hext.spans hfinish
    exact ⟨later, hlater⟩

/-- The state of the walk before the node at a position. -/
structure Follows (graph : Graph) (position : Nat) (a : Assignment) : Prop where
  /-- The assignment is in order. -/
  orderly : Orderly graph position a
  /-- The nodes before the position have their buffers. -/
  length : a.nodes.length = position
  /-- Exactly the tensors that these nodes produce have buffers. -/
  bound : ∀ t, (a.bufferOf? t).isSome ↔ t ∈ graph.producedBefore position
  /-- The assignment accounts for each of these nodes. -/
  accounts : ∀ {i : Nat} {node : Node}, i < position → graph.nodes[i]? = some node →
    ∃ buffers, a.nodes[i]? = some buffers ∧ Accounts graph i node a buffers

theorem follows_empty (graph : Graph) : Follows graph 0 {} := by
  refine ⟨orderly_empty graph, rfl, ?_, ?_⟩
  · intro t
    simp [Graph.producedBefore, bufferOf?]
  · intro i node hi
    exact absurd hi (Nat.not_lt_zero i)

/-- The inputs that are listed for a node are known buffers. -/
theorem Follows.known (h : Follows graph position a) {i : Nat} {buffers : OperationBuffers}
    (haccounts : Accounts graph i node a buffers) : ∀ id ∈ buffers.inputs, ∃ x, a.buffer? id = some x := by
  intro id hid
  obtain ⟨j, hj, rfl⟩ := List.getElem_of_mem hid
  have hlength := haccounts.inputs.length_eq
  have hbuffer := haccounts.inputs.get (by omega) hj
  obtain ⟨x, hx, -⟩ := h.orderly.tensors hbuffer
  exact ⟨x, hx⟩

/-- The positions of a graph end with the last one. -/
theorem le_lastPosition (hnode : graph.nodes[position]? = some node) : position ≤ graph.lastPosition := by
  obtain ⟨hlt, -⟩ := List.getElem?_eq_some_iff.mp hnode
  unfold Graph.lastPosition
  omega

/-- A node needs its inputs at its own position at least, and never behind the last one. -/
theorem keptTo_spec (hnode : graph.nodes[position]? = some node) :
    position ≤ keptTo graph node position ∧ keptTo graph node position ≤ graph.lastPosition := by
  have hlast := le_lastPosition hnode
  unfold keptTo
  split
  · exact ⟨hlast, Nat.le_refl _⟩
  · exact ⟨Nat.le_refl _, hlast⟩

/-- The tensors read have their buffers, each with its size. -/
theorem mapM_readTensor_eq_ok {tensors : List TensorId} (h : tensors.mapM a.readTensor = .ok inputs)
    (ho : Orderly graph position a) :
    List.Forall₂ (fun t input => a.bufferOf? t = some input.1 ∧ input.2 = graph.bytesOf t) tensors inputs ∧
      a.Sized inputs := by
  have hall := Except.mapM_eq_ok.mp h
  constructor
  · refine hall.imp ?_
    intro t input hread
    obtain ⟨hbound, x, hx, hsize⟩ := readTensor_eq_ok hread
    obtain ⟨y, hy, hysize⟩ := ho.tensors hbound
    rw [hx] at hy
    obtain rfl := Option.some.inj hy
    exact ⟨hbound, hsize.symm.trans hysize⟩
  · intro input hinput
    obtain ⟨t, -, hread⟩ := (Except.mem_of_mapM_eq_ok h).2 input hinput
    exact (readTensor_eq_ok hread).2

/-- The buffers and the sizes of a list of tensors that have them. -/
theorem forall₂_entries {tensors : List TensorId} {entries : List (BufferId × Nat)}
    (h : List.Forall₂ (fun t entry => a.bufferOf? t = some entry.1 ∧ entry.2 = graph.bytesOf t) tensors
      entries) :
    List.Forall₂ (fun t id => a.bufferOf? t = some id) tensors (entries.map Prod.fst) ∧
      entries.map Prod.snd = tensors.map graph.bytesOf := by
  induction h with
  | nil => exact ⟨.nil, rfl⟩
  | cons hentry _ ih =>
    refine ⟨.cons hentry.1 ih.1, ?_⟩
    rw [List.map_cons, List.map_cons, ih.2, hentry.2]

/-- A node with its inputs and outputs is accounted for as soon as it is added. -/
theorem accounts_addNode {produced next : List TensorId} {made : List (BufferId × Nat)} {kept : Assignment}
    (hproduced : ∀ t, t ∈ produced ↔ t ∈ graph.producedBefore position)
    (hchecked : Graph.Checked produced node next)
    (hread : List.Forall₂ (fun t input => a.bufferOf? t = some input.1 ∧ input.2 = graph.bytesOf t)
      node.inputs inputs)
    (hreads : ∀ id ∈ inputs.map Prod.fst, ∀ start finish, after.Spans id start finish →
      start < position ∧ position ≤ finish)
    (hkeep : a.Extends kept)
    (hmade : OutputsAssigned graph node position inputs kept node.outputs made after) :
    Accounts graph position node (after.addNode inputs made)
      { inputs := inputs.map Prod.fst, outputs := made.map Prod.fst,
        inputSizes := inputs.map Prod.snd, outputSizes := made.map Prod.snd } := by
  obtain ⟨hinputs, hinputSizes⟩ := forall₂_entries hread
  obtain ⟨houtputs, houtputSizes⟩ := forall₂_entries hmade.tensors
  have hext : a.Extends after := hkeep.trans hmade.grows
  refine ⟨hchecked.arity, hinputs.imp fun _ _ => hext.tensors, houtputs, hinputSizes, houtputSizes, ?_, ?_,
    hchecked.distinct, hreads, ?_, ?_, ?_⟩
  · intro t ht
    exact (hproduced t).mp (hchecked.reads t ht)
  · intro t ht hearlier
    exact hchecked.writes t ht ((hproduced t).mpr hearlier)
  · intro hview
    obtain ⟨source, target, hsource, htarget⟩ := Graph.eq_singletons_of_view hchecked.arity hview
    have hone := hread.length_eq
    have hone' := hmade.tensors.length_eq
    rw [hsource] at hone
    rw [htarget] at hone'
    obtain ⟨input, rfl⟩ := List.length_eq_one_iff.mp hone.symm
    obtain ⟨output, rfl⟩ := List.length_eq_one_iff.mp hone'.symm
    have hsame := (hmade.origin output (List.mem_singleton_self _)).view hview
    rw [Option.some.inj hsame]
  · intro data hdata id hid
    obtain ⟨output, houtput, rfl⟩ := List.mem_map.mp hid
    exact (hmade.origin output houtput).constant hdata
  · intro hview hconstant
    refine ⟨hmade.distinct hview hconstant, ?_⟩
    intro id hid
    obtain ⟨output, houtput, rfl⟩ := List.mem_map.mp hid
    exact ((hmade.origin output houtput).transient hview hconstant).2

/-- One node's turn in the walk: what it reads is kept alive, and its outputs get buffers. -/
structure Turn (graph : Graph) (node : Node) (position : Nat) (a : Assignment)
    (inputs made : List (BufferId × Nat)) (final : Assignment) : Prop where
  /-- The node stands at the position. -/
  stands : graph.nodes[position]? = some node
  /-- The tensors that the node reads have their buffers. -/
  read : List.Forall₂ (fun t input => a.bufferOf? t = some input.1 ∧ input.2 = graph.bytesOf t)
    node.inputs inputs
  /-- The buffers read are there. -/
  sized : a.Sized inputs
  /-- Keeping them alive takes nothing away. -/
  keeps : a.Extends (a.keep (keptTo graph node position) inputs)
  /-- The outputs get their buffers afterwards. -/
  outputs : assignOutputs graph node position inputs (a.keep (keptTo graph node position) inputs)
    node.outputs = .ok (made, final)
  /-- What these buffers are. -/
  made : OutputsAssigned graph node position inputs (a.keep (keptTo graph node position) inputs)
    node.outputs made final

theorem Turn.grows {made : List (BufferId × Nat)} {final : Assignment}
    (h : Turn graph node position a inputs made final) : a.Extends final :=
  h.keeps.trans h.made.grows

/-- A node that gets its buffers takes its turn and is added. -/
theorem assignNode_eq_ok (h : Follows graph position a) (hnode : graph.nodes[position]? = some node)
    {produced next : List TensorId} (hproduced : ∀ t, t ∈ produced ↔ t ∈ graph.producedBefore position)
    (hchecked : Graph.Checked produced node next)
    (hassign : assignNode graph registry a (node, position) = .ok after) :
    ∃ inputs made final, Turn graph node position a inputs made final ∧ after = final.addNode inputs made := by
  unfold assignNode at hassign
  dsimp only at hassign
  split at hassign
  · obtain ⟨inputs, hinputs, hassign⟩ := Except.bind_eq_ok.mp hassign
    obtain ⟨⟨made, final⟩, houtputs, hassign⟩ := Except.bind_eq_ok.mp hassign
    obtain rfl := Except.pure_eq_ok.mp hassign
    obtain ⟨hread, hsized⟩ := mapM_readTensor_eq_ok hinputs h.orderly
    obtain ⟨hkeep, horderly, -⟩ := keep_spec (keptTo_spec hnode).2 h.orderly hsized
    have hfresh : ∀ t ∈ node.outputs, (a.keep (keptTo graph node position) inputs).bufferOf? t = none := by
      intro t ht
      rw [bufferOf?_keep, ← Option.not_isSome_iff_eq_none, h.bound t, ← hproduced t]
      exact hchecked.writes t ht
    exact ⟨inputs, made, final, ⟨hnode, hread, hsized, hkeep, houtputs,
      assignOutputs_eq_ok (le_lastPosition hnode) horderly.succ (hkeep.sized hsized) hfresh
        hchecked.distinct houtputs⟩, rfl⟩
  · cases hassign

/-- The walk goes on with a node. -/
theorem Follows.step (h : Follows graph position a) {made : List (BufferId × Nat)} {final : Assignment}
    (hturn : Turn graph node position a inputs made final)
    {produced next : List TensorId} (hproduced : ∀ t, t ∈ produced ↔ t ∈ graph.producedBefore position)
    (hchecked : Graph.Checked produced node next) :
    Follows graph (position + 1) (final.addNode inputs made) := by
  obtain ⟨hkept, hkeptLast⟩ := keptTo_spec hturn.stands
  obtain ⟨-, -, hknodes, hklate⟩ := keep_spec hkeptLast h.orderly hturn.sized
  have hmade := hturn.made
  have hreads : ∀ id ∈ inputs.map Prod.fst, ∀ start finish, final.Spans id start finish →
      start < position ∧ position ≤ finish := by
    intro id hid start finish hspans
    obtain ⟨input, hinput, rfl⟩ := List.mem_map.mp hid
    obtain ⟨x, hx, -⟩ := hturn.sized input hinput
    obtain ⟨y, hy, -⟩ := hturn.keeps.sized hturn.sized input hinput
    obtain ⟨earlier, hearlier, -⟩ := hturn.grows.spans_of_spans hx hspans
    obtain ⟨later, hlater, hle⟩ := hmade.grows.spans_of_spans hy hspans
    have hlate := hklate input hinput start later hlater
    exact ⟨(h.orderly.spans hearlier).1, by omega⟩
  have hlength : final.nodes.length = position := by
    rw [hmade.nodes, hknodes, h.length]
  have hwhole : a.Extends (final.addNode inputs made) :=
    hturn.grows.trans (extends_addNode final inputs made)
  refine ⟨⟨hmade.orderly.numbered, hmade.orderly.filled, hmade.orderly.spans, hmade.orderly.tensors⟩,
    ?_, ?_, ?_⟩
  · change (final.nodes ++ [_]).length = position + 1
    rw [List.length_append, hlength]
    rfl
  · intro t
    change (final.bufferOf? t).isSome ↔ _
    rw [hmade.bound t, bufferOf?_keep, h.bound t, Graph.producedBefore_succ hturn.stands, List.mem_append]
  · intro i other hi hother
    rcases Nat.lt_succ_iff_lt_or_eq.mp hi with hlt | rfl
    · obtain ⟨buffers, hbuffers, haccounts⟩ := h.accounts hlt hother
      exact ⟨buffers, hwhole.nodes hbuffers, haccounts.mono (h.known haccounts) hwhole⟩
    · rw [hturn.stands] at hother
      obtain rfl := Option.some.inj hother
      refine ⟨_, ?_, accounts_addNode hproduced hchecked hturn.read hreads hturn.keeps hmade⟩
      change (final.nodes ++ [_])[i]? = _
      rw [← hlength]
      exact List.getElem?_concat_length

section Induction

variable {motive : Nat → Assignment → Prop} (hstart : motive 0 {})
  (hstep : ∀ {position : Nat} {node : Node} {a final : Assignment} {inputs made : List (BufferId × Nat)},
    Follows graph position a → Turn graph node position a inputs made final → motive position a →
      motive (position + 1) (final.addNode inputs made))
include hstart hstep

/-- What holds before the walk and is kept by every node's turn holds after each part of the walk. -/
theorem walk_induction {items : List (Node × Nat)} (hitems : items <+: graph.positioned)
    {produced : List TensorId} (hcheck : items.foldlM graph.checkNode [] = .ok produced)
    (hassign : items.foldlM (assignNode graph registry) {} = .ok a) :
    (∀ t, t ∈ produced ↔ t ∈ graph.producedBefore items.length) ∧ Follows graph items.length a ∧
      motive items.length a := by
  refine Except.foldlM_induction
    (motive := fun i produced a =>
      (∀ t, t ∈ produced ↔ t ∈ graph.producedBefore i) ∧ Follows graph i a ∧ motive i a)
    ?_ hcheck hassign ⟨by simp [Graph.producedBefore], follows_empty graph, hstart⟩
  rintro i ⟨node, position⟩ produced a next after hitem hcheck hassign ⟨hproduced, hfollows, hmotive⟩
  have hstands : graph.positioned[i]? = some (node, position) := by
    obtain ⟨rest, hrest⟩ := hitems
    rw [← hrest, List.getElem?_append_left (List.getElem?_eq_some_iff.mp hitem).1]
    exact hitem
  obtain ⟨hnode, rfl⟩ := Graph.getElem?_positioned.mp hstands
  have hchecked := Graph.checkNode_eq_ok hcheck
  obtain ⟨inputs, made, final, hturn, rfl⟩ := assignNode_eq_ok hfollows hnode hproduced hchecked hassign
  refine ⟨?_, hfollows.step hturn hproduced hchecked, hstep hfollows hturn hmotive⟩
  intro t
  rw [hchecked.after t, Graph.producedBefore_succ hnode, List.mem_append, hproduced t]

/-- It holds of the finished assignment. -/
theorem ofGraph_induction (h : ofGraph graph registry = .ok a) :
    Follows graph graph.nodes.length a ∧ motive graph.nodes.length a := by
  unfold ofGraph at h
  obtain ⟨_, hvalid, hwalk⟩ := Except.bind_eq_ok.mp h
  obtain ⟨produced, hfold, -⟩ := Except.bind_eq_ok.mp hvalid
  unfold walk at hwalk
  rw [Progress.result_walk] at hwalk
  have hrun := walk_induction hstart hstep List.prefix_rfl hfold hwalk
  have hlength : graph.positioned.length = graph.nodes.length := List.length_zipIdx
  rw [hlength] at hrun
  exact hrun.2

end Induction

/-- The finished assignment accounts for every node of the graph. -/
theorem ofGraph_follows (h : ofGraph graph registry = .ok a) : Follows graph graph.nodes.length a :=
  (ofGraph_induction (motive := fun _ _ => True) trivial (fun _ _ _ => trivial) h).1

end MemoryPlan.Assignment
