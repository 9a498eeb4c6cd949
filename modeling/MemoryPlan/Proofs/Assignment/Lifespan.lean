import Mathlib.Order.Bounds.Basic
import MemoryPlan.Proofs.Assignment.Queries
import MemoryPlan.Proofs.Assignment.Views
/-!
# Exact lifespans

A transient buffer lives from the node that produced its source to the last node that reads the source or a view
of it, and a reading result node counts as the last position. The walk builds the lifespans up: before each
node, a lifespan is exact for the readers so far (`Assignment.Dated`).
-/

namespace MemoryPlan

/-- The node at a position reads the tensor, and its bytes are needed up to another position: a result needs them
to the end of the graph. -/
def Graph.ReadsTo (graph : Graph) (i : Nat) (t : TensorId) (needed : Nat) : Prop :=
  ∃ node, graph.nodes[i]? = some node ∧ t ∈ node.inputs ∧
    needed = if node.kind = .result then graph.lastPosition else i

namespace Assignment

variable {graph : Graph} {registry : Registry} {node : Node} {position : Nat} {a final : Assignment}
  {inputs made : List (BufferId × Nat)} {id : BufferId} {t : TensorId} {start finish last : Nat}

/-- A node reads its own inputs, each up to the last position at which the node needs it. -/
theorem readsTo_iff {i needed : Nat} (hnode : graph.nodes[i]? = some node) :
    graph.ReadsTo i t needed ↔ t ∈ node.inputs ∧ needed = keptTo graph node i := by
  have hkept : keptTo graph node i = if node.kind = .result then graph.lastPosition else i := by
    unfold keptTo
    by_cases h : node.kind = .result <;> simp [h]
  unfold Graph.ReadsTo
  rw [hkept]
  constructor
  · rintro ⟨other, hother, ht, hneeded⟩
    rw [hnode] at hother
    obtain rfl := Option.some.inj hother
    exact ⟨ht, hneeded⟩
  · rintro ⟨ht, hneeded⟩
    exact ⟨node, hnode, ht, hneeded⟩

/-- A buffer kept alive twice to one position is kept alive to there. -/
theorem extended_extended (x : AssignedBuffer) : (x.extended last).extended last = x.extended last := by
  cases hcontent : x.content with
  | constant data => rw [AssignedBuffer.extended_of_constant hcontent,
      AssignedBuffer.extended_of_constant hcontent]
  | transient start finish =>
    rw [AssignedBuffer.extended_of_transient hcontent, AssignedBuffer.extended_of_transient rfl]
    simp

/-- Exactly the listed buffers are kept alive. -/
theorem buffer?_keep (a : Assignment) (last : Nat) (inputs : List (BufferId × Nat)) (id : BufferId) :
    (a.keep last inputs).buffer? id =
      if id ∈ inputs.map Prod.fst then (a.buffer? id).map (AssignedBuffer.extended last)
      else a.buffer? id := by
  induction inputs generalizing a with
  | nil => rfl
  | cons input rest ih =>
    have hkeep : a.keep last (input :: rest) = (a.extend input.1 last).keep last rest := rfl
    have htwice : AssignedBuffer.extended last ∘ AssignedBuffer.extended last = AssignedBuffer.extended last :=
      funext extended_extended
    rw [hkeep, ih, buffer?_extend]
    simp only [List.map_cons, List.mem_cons, eq_comm (a := id) (b := input.1)]
    by_cases hhead : input.1 = id <;> by_cases hrest : id ∈ rest.map Prod.fst <;>
      simp only [hhead, hrest, if_true, if_false, true_or, or_true, or_self, Option.map_map, htwice]

/-- Keeping buffers alive makes no buffer. -/
theorem buffer?_keep_eq_none : (a.keep last inputs).buffer? id = none ↔ a.buffer? id = none := by
  rw [buffer?_keep]
  split <;> simp

/-- The lifespans after keeping buffers alive. -/
theorem spans_keep (h : (a.keep last inputs).Spans id start finish) :
    ∃ earlier, a.Spans id start earlier ∧
      finish = if id ∈ inputs.map Prod.fst then max earlier last else earlier := by
  obtain ⟨x, hx, hcontent⟩ := h
  rw [buffer?_keep] at hx
  split at hx
  · next hmem =>
    obtain ⟨y, hy, rfl⟩ := Option.map_eq_some_iff.mp hx
    cases hkind : y.content with
    | constant data =>
      rw [AssignedBuffer.extended_of_constant hkind, hkind] at hcontent
      cases hcontent
    | transient start' earlier =>
      rw [AssignedBuffer.extended_of_transient hkind] at hcontent
      obtain ⟨rfl, rfl⟩ := BufferContent.transient.inj hcontent
      exact ⟨earlier, ⟨y, hy, hkind⟩, (if_pos hmem).symm⟩
  · next hmem => exact ⟨finish, ⟨x, hx, hcontent⟩, (if_neg hmem).symm⟩

/-- A view gets a buffer that was there; another node gets a new one, with constant data or alive at the node only. -/
theorem outputBuffer_cases {size : Nat} {after : Assignment}
    (h : a.outputBuffer node position inputs size = .ok (id, after)) :
    node.kind.isView = true ∧ after = a ∨
      node.kind.isView = false ∧ ∃ content, (id, after) = a.push size content ∧
        ∀ start finish, content = .transient start finish → start = position ∧ finish = position := by
  unfold outputBuffer at h
  split at h
  · next hkind =>
    split at h
    · cases h
    · split at h
      · exact Or.inl ⟨by rw [hkind]; rfl, (Prod.mk.inj (Except.ok.inj h)).2.symm⟩
      · cases h
  · next hkind =>
    split at h
    · refine Or.inr ⟨by rw [hkind]; rfl, _, (Except.ok.inj h).symm, ?_⟩
      intro start finish heq
      cases heq
    · cases h
  · next hview _ =>
    refine Or.inr ⟨?_, _, (Except.ok.inj h).symm, ?_⟩
    · cases hkind : node.kind with
      | view kind => exact absurd hkind (hview kind)
      | _ => rfl
    · intro start finish heq
      obtain ⟨rfl, rfl⟩ := BufferContent.transient.inj heq
      exact ⟨rfl, rfl⟩

/-- A buffer of an output that was not there before the node. -/
structure Opened (position : Nat) (a : Assignment) (made : List (BufferId × Nat)) (id : BufferId)
    (x : AssignedBuffer) : Prop where
  /-- The buffer is new. -/
  new : a.buffer? id = none
  /-- An output lives in it. -/
  made : id ∈ made.map Prod.fst
  /-- If it is transient, it starts and ends at the node. -/
  brief : ∀ start finish, x.content = .transient start finish → start = position ∧ finish = position

/-- The buffers after a node's outputs are those before and the opened ones. -/
theorem assignOutputs_opens {outputs : List TensorId}
    (h : assignOutputs graph node position inputs a outputs = .ok (made, final)) {x : AssignedBuffer}
    (hx : final.buffer? id = some x) : a.buffer? id = some x ∨ Opened position a made id x := by
  induction outputs generalizing a made with
  | nil =>
    obtain ⟨rfl, rfl⟩ := Prod.mk.inj (Except.ok.inj h)
    exact Or.inl hx
  | cons t rest ih =>
    obtain ⟨size, first, between, others, -, hbuffer, hrest, rfl⟩ := assignOutputs_cons_eq_ok h
    have hlater : between.buffer? id = some x ∨ Opened position between others id x := by
      rcases ih hrest with hold | hopened
      · exact Or.inl hold
      · exact Or.inr ⟨hopened.new, hopened.made, hopened.brief⟩
    rcases outputBuffer_cases hbuffer with ⟨-, rfl⟩ | ⟨-, content, hpush, hbrief⟩
    · exact hlater.imp_right fun hopened => ⟨hopened.new, List.mem_cons_of_mem _ hopened.made, hopened.brief⟩
    · obtain ⟨rfl, rfl⟩ := Prod.mk.inj hpush
      rcases hlater with hpushed | hopened
      · rcases eq_or_of_buffer?_push hpushed with hold | ⟨rfl, rfl⟩
        · exact Or.inl hold
        · exact Or.inr ⟨List.getElem?_eq_none (Nat.le_refl _), List.mem_cons_self .., hbrief⟩
      · refine Or.inr ⟨?_, List.mem_cons_of_mem _ hopened.made, hopened.brief⟩
        cases hold : a.buffer? id with
        | none => rfl
        | some y => exact absurd (hopened.new.symm.trans (buffer?_push size content hold)) (by simp)

/-- A node before the position reads a tensor of the buffer, and needs it up to another position. -/
def Needed (graph : Graph) (position : Nat) (a : Assignment) (id : BufferId) (needed : Nat) : Prop :=
  ∃ i t, i < position ∧ a.bufferOf? t = some id ∧ graph.ReadsTo i t needed

/-- What holds of the lifespans before the node at a position. -/
structure Dated (graph : Graph) (position : Nat) (a : Assignment) : Prop where
  /-- Every buffer has a tensor. -/
  owned : ∀ {id : BufferId} {x : AssignedBuffer}, a.buffer? id = some x → ∃ t, a.bufferOf? t = some id
  /-- A transient ends at its last reader so far, or at its start. -/
  exact : ∀ {id : BufferId} {start finish : Nat}, a.Spans id start finish →
    IsGreatest (insert start {needed | Needed graph position a id needed}) finish

theorem dated_empty (graph : Graph) : Dated graph 0 {} := by
  constructor
  · intro id x h
    cases h
  · rintro id start finish ⟨x, h, -⟩
    cases h

/-- A node's turn adds the node to the readers of the buffers that it reads. -/
theorem needed_turn (h : Follows graph position a) (hturn : Turn graph node position a inputs made final)
    {needed : Nat} : Needed graph (position + 1) (final.addNode inputs made) id needed ↔
      Needed graph position a id needed ∨ id ∈ inputs.map Prod.fst ∧ needed = keptTo graph node position := by
  constructor
  · rintro ⟨i, t, hi, ht, hneeded⟩
    obtain ⟨reader, hreader, hmem, heq⟩ := hneeded
    rcases Nat.lt_succ_iff_lt_or_eq.mp hi with hlt | rfl
    · obtain ⟨buffers, -, haccounts⟩ := h.accounts hlt hreader
      obtain ⟨known, -, hknown⟩ := exists_bufferOf? haccounts.inputs hmem
      have hsame : known = id := Option.some.inj ((hturn.grows.tensors hknown).symm.trans ht)
      exact Or.inl ⟨i, t, hlt, hsame ▸ hknown, reader, hreader, hmem, heq⟩
    · have hreads := (readsTo_iff hturn.stands).mp ⟨reader, hreader, hmem, heq⟩
      obtain ⟨known, hlisted, hknown⟩ := exists_bufferOf? (forall₂_entries hturn.read).1 hreads.1
      have hsame : known = id := Option.some.inj ((hturn.grows.tensors hknown).symm.trans ht)
      exact Or.inr ⟨hsame ▸ hlisted, hreads.2⟩
  · rintro (⟨i, t, hi, ht, hneeded⟩ | ⟨hlisted, rfl⟩)
    · exact ⟨i, t, by omega, hturn.grows.tensors ht, hneeded⟩
    · obtain ⟨t, ht, hknown⟩ := exists_tensor (forall₂_entries hturn.read).1 hlisted
      exact ⟨position, t, by omega, hturn.grows.tensors hknown, (readsTo_iff hturn.stands).mpr ⟨ht, rfl⟩⟩

/-- No node needs a buffer that is not there yet. -/
theorem Follows.not_needed (h : Follows graph position a) (hnew : a.buffer? id = none) {needed : Nat} :
    ¬Needed graph position a id needed := by
  rintro ⟨i, t, -, ht, -⟩
  obtain ⟨x, hx, -⟩ := h.orderly.tensors ht
  rw [hnew] at hx
  cases hx

/-- A node's turn keeps the lifespans exact. -/
theorem Dated.turn (hdated : Dated graph position a) (h : Follows graph position a)
    (hturn : Turn graph node position a inputs made final) :
    Dated graph (position + 1) (final.addNode inputs made) := by
  have hcases : ∀ {id x}, final.buffer? id = some x →
      (a.keep (keptTo graph node position) inputs).buffer? id = some x ∨
        Opened position (a.keep (keptTo graph node position) inputs) made id x :=
    fun hx => assignOutputs_opens hturn.outputs hx
  constructor
  · intro id x hx
    rcases hcases hx with hold | hopened
    · cases hknown : a.buffer? id with
      | none => exact absurd (hold.symm.trans (buffer?_keep_eq_none.mpr hknown)) (by simp)
      | some y =>
        obtain ⟨t, ht⟩ := hdated.owned hknown
        exact ⟨t, hturn.grows.tensors ht⟩
    · obtain ⟨t, -, ht⟩ := exists_tensor (forall₂_entries hturn.made.tensors).1 hopened.made
      exact ⟨t, ht⟩
  · rintro id start finish ⟨x, hx, hcontent⟩
    have hset : {needed | Needed graph (position + 1) (final.addNode inputs made) id needed} =
        {needed | Needed graph position a id needed ∨
          id ∈ inputs.map Prod.fst ∧ needed = keptTo graph node position} :=
      Set.ext fun needed => needed_turn h hturn
    rw [hset]
    rcases hcases hx with hold | hopened
    · obtain ⟨earlier, hspans, rfl⟩ := spans_keep ⟨x, hold, hcontent⟩
      have hgreatest := hdated.exact hspans
      by_cases hread : id ∈ inputs.map Prod.fst
      · have hinsert := hgreatest.insert (keptTo graph node position)
        have hsame : insert (keptTo graph node position)
            (insert start {needed | Needed graph position a id needed}) =
              insert start {needed | Needed graph position a id needed ∨
                id ∈ inputs.map Prod.fst ∧ needed = keptTo graph node position} := by
          apply Set.ext
          intro needed
          simp only [hread, true_and, Set.mem_insert_iff, Set.mem_ofPred_eq]
          tauto
        rw [if_pos hread, max_comm, ← hsame]
        exact hinsert
      · simp only [hread, false_and, or_false, if_false]
        exact hgreatest
    · -- nobody has read a buffer that the node opens
      have hnew : a.buffer? id = none := buffer?_keep_eq_none.mp hopened.new
      have hunread : id ∉ inputs.map Prod.fst := by
        intro hmem
        obtain ⟨input, hinput, rfl⟩ := List.mem_map.mp hmem
        obtain ⟨y, hy, -⟩ := hturn.sized input hinput
        rw [hnew] at hy
        cases hy
      obtain ⟨rfl, rfl⟩ := hopened.brief start finish hcontent
      simp only [h.not_needed hnew, hunread, false_and, or_false, Set.ofPred_false]
      simp

/-- The buffers of an assigned graph have the dates that its readers ask for. -/
theorem ofGraph_dated (h : ofGraph graph registry = .ok a) : Dated graph graph.nodes.length a :=
  (ofGraph_induction (motive := Dated graph) (dated_empty graph)
    (fun hfollows hturn hdated => hdated.turn hfollows hturn) h).2

/-- The lifespan of a transient buffer as the graph tells it: a source and its views live in the buffer. -/
structure Lifetime (graph : Graph) (a : Assignment) (id : BufferId) (source : TensorId)
    (start finish : Nat) : Prop where
  /-- A node that is no view produces the source at the start. -/
  produced : graph.Sourced start source
  /-- The source is the only tensor of the buffer that such a node produces. -/
  unique : ∀ position t, graph.Sourced position t → a.bufferOf? t = some id → position = start ∧ t = source
  /-- The tensors of the buffer are those that have the bytes of the source. -/
  living : ∀ t, a.bufferOf? t = some id ↔ graph.SharesBytes source t
  /-- The end is the last position up to which one of them is needed, or the start. -/
  latest : IsGreatest
    (insert start {needed | ∃ i t, graph.SharesBytes source t ∧ graph.ReadsTo i t needed}) finish
  /-- The lifespan is an interval of the graph. -/
  ordered : start ≤ finish ∧ finish ≤ graph.lastPosition
  /-- The nodes that read or write the buffer stand within the lifespan. -/
  touched : ∀ i buffers, a.nodeBuffers? i = some buffers →
    id ∈ buffers.inputs ∨ id ∈ buffers.outputs → start ≤ i ∧ i ≤ finish

/-- The nodes of a finished assignment touch a transient buffer during its lifespan only. -/
theorem Follows.touched (h : Follows graph graph.nodes.length a) (hspans : a.Spans id start finish)
    {i : Nat} {buffers : OperationBuffers} (hbuffers : a.nodeBuffers? i = some buffers)
    (hid : id ∈ buffers.inputs ∨ id ∈ buffers.outputs) : start ≤ i ∧ i ≤ finish := by
  have hi : i < graph.nodes.length := by
    obtain ⟨hlt, -⟩ := List.getElem?_eq_some_iff.mp hbuffers
    have hlength := h.length
    omega
  obtain ⟨known, hknown, haccounts⟩ := h.accounts hi (List.getElem?_eq_getElem hi)
  obtain rfl : known = buffers := Option.some.inj (hknown.symm.trans hbuffers)
  have hreads : id ∈ known.inputs → start ≤ i ∧ i ≤ finish := by
    intro hmem
    obtain ⟨hstart, hfinish⟩ := haccounts.reads id hmem start finish hspans
    omega
  rcases hid with hmem | hmem
  · exact hreads hmem
  · cases hview : graph.nodes[i].kind.isView with
    | true => exact hreads (haccounts.view hview ▸ hmem)
    | false =>
      -- the node made the buffer, which therefore starts there
      have hstart := (haccounts.start_eq hview hmem hspans).2
      have hordered := h.orderly.spans hspans
      omega

/-- The positions up to which the tensors of a buffer are needed are told by the graph alone. -/
theorem needed_iff_of_living {source : TensorId}
    (hliving : ∀ t, a.bufferOf? t = some id ↔ graph.SharesBytes source t) {needed : Nat} :
    Needed graph graph.nodes.length a id needed ↔
      ∃ i t, graph.SharesBytes source t ∧ graph.ReadsTo i t needed := by
  constructor
  · rintro ⟨i, t, -, ht, hneeded⟩
    exact ⟨i, t, (hliving t).mp ht, hneeded⟩
  · rintro ⟨i, t, ht, node, hnode, hread⟩
    obtain ⟨hlt, -⟩ := List.getElem?_eq_some_iff.mp hnode
    exact ⟨i, t, hlt, (hliving t).mpr ht, node, hnode, hread⟩

/-- Every transient buffer has the lifespan that the graph tells: from the only node that makes its source to the
last reader of the source or of a view of it. -/
theorem lifespan_exact (h : ofGraph graph registry = .ok a) (hid : id ∈ a.transientIds) :
    ∃ start finish source, a.lifespan id = .ok (start, finish) ∧
      Lifetime graph a id source start finish := by
  have hfollows := ofGraph_follows h
  have hdated := ofGraph_dated h
  obtain ⟨start, finish, hspans⟩ := (mem_transientIds_iff hfollows.orderly).mp hid
  have hfound := hspans
  obtain ⟨x, hx, -⟩ := hfound
  obtain ⟨t, ht⟩ := hdated.owned hx
  obtain ⟨position, source, hsourced, hshares⟩ := hfollows.exists_source (Option.isSome_of_eq_some ht)
  have hsource : a.bufferOf? source = some id := (hfollows.bufferOf?_sharesBytes hshares).symm.trans ht
  obtain rfl : position = start := hfollows.start_of_sourced hsourced hsource hspans
  have hunique : ∀ other u, graph.Sourced other u → a.bufferOf? u = some id →
      other = position ∧ u = source := fun other u hother hu =>
    ⟨hfollows.start_of_sourced hother hu hspans, hfollows.source_unique hother hsourced hu hsource hspans⟩
  have hliving : ∀ u, a.bufferOf? u = some id ↔ graph.SharesBytes source u := by
    intro u
    constructor
    · intro hu
      obtain ⟨other, first, hother, hfirst⟩ := hfollows.exists_source (Option.isSome_of_eq_some hu)
      have hsame := (hunique other first hother ((hfollows.bufferOf?_sharesBytes hfirst).symm.trans hu)).2
      rw [← hsame]
      exact hfirst
    · intro hu
      exact (hfollows.bufferOf?_sharesBytes hu).trans hsource
  have hlatest := hdated.exact hspans
  simp only [needed_iff_of_living hliving] at hlatest
  obtain ⟨-, hordered⟩ := hfollows.orderly.spans hspans
  exact ⟨position, finish, source, lifespan_eq_ok.mpr hspans, hsourced, hunique, hliving, hlatest, hordered,
    fun i buffers => hfollows.touched hspans⟩

end Assignment

/-- A result in the middle reads a view of `x`, and a view of this view is never read. -/
def Graph.reshaped : Graph where
  name := "reshaped"
  tensors := (List.range 4).map fun i => ⟨⟨i⟩, [.fixed 4], .u8⟩
  nodes :=
    [⟨"x", .parameter, [], [⟨0⟩]⟩, ⟨"v", .view .reshape, [⟨0⟩], [⟨1⟩]⟩, ⟨"early", .result, [⟨1⟩], []⟩,
      ⟨"w", .view .squeeze, [⟨1⟩], [⟨2⟩]⟩, ⟨"z", .parameter, [], [⟨3⟩]⟩]

namespace Assignment

/-- The buffers of the reshaped input. -/
def reshapedBuffers : Assignment := (ofGraph .reshaped .structural).toOption.get (by decide +kernel)

/-- The buffer of `x` lives from the first position to the last one. -/
theorem lifespan_exact_reshaped :
    ofGraph .reshaped .structural = .ok reshapedBuffers ∧ ⟨0⟩ ∈ reshapedBuffers.transientIds ∧
      ∃ source, Lifetime .reshaped reshapedBuffers ⟨0⟩ source 0 4 := by
  have hok : ofGraph .reshaped .structural = .ok reshapedBuffers := Except.eq_ok_get _
  have hlisted : ⟨0⟩ ∈ reshapedBuffers.transientIds := by decide +kernel
  have hknown : reshapedBuffers.Spans ⟨0⟩ 0 4 := by
    refine ⟨⟨⟨0⟩, 4, .transient 0 4⟩, ?_, rfl⟩
    decide +kernel
  obtain ⟨start, finish, source, hspan, hlife⟩ := lifespan_exact hok hlisted
  obtain ⟨rfl, rfl⟩ := (lifespan_eq_ok.mp hspan).unique hknown
  exact ⟨hok, hlisted, source, hlife⟩

end Assignment
end MemoryPlan
