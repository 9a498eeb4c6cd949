import MemoryPlan.Proofs.Network.Steps
/-!
# Requests and the reference semantics

While a request runs, the bytes of every tensor that may still be read stand at the place of its buffer,
although dead buffers are overwritten (`Network.Tracks`). Each step keeps this, so that a request yields what
the graph means with every tensor in storage of its own.
-/

namespace MemoryPlan

namespace Values

variable {values : Values} {tensors : List TensorId} {data : List Bytes} {t : TensorId}

theorem bind_of_not_mem (h : t ∉ tensors) : values.bind tensors data t = values t := by
  unfold bind
  have hnone : (tensors.zip data).lookup t = none := by
    apply List.lookup_eq_none_iff.mpr
    intro pair hpair
    have hne : t ≠ pair.1 := by
      rintro rfl
      exact h (List.of_mem_zip hpair).1
    exact bne_iff_ne.mpr hne
  rw [hnone]
  rfl

/-- The first of the tensors gets the first of the data. -/
theorem bind_cons (t u : TensorId) (d : Bytes) :
    values.bind (u :: tensors) (d :: data) t = if t = u then d else values.bind tensors data t := by
  unfold bind
  rw [List.zip_cons_cons, List.lookup_cons]
  by_cases h : t = u
  · rw [if_pos h, h, beq_self_eq_true]
    rfl
  · rw [if_neg h, beq_false_of_ne h]

/-- Tensors that are given the bytes of their buffers have them. -/
theorem bind_eq {a : Assignment} {ids : List BufferId} (read : BufferId → Bytes)
    (h : List.Forall₂ (fun t id => a.bufferOf? t = some id) tensors ids) (ht : t ∈ tensors) {id : BufferId}
    (hid : a.bufferOf? t = some id) : values.bind tensors (ids.map read) t = read id := by
  induction h with
  | nil => cases ht
  | @cons u other _ _ hbound _ ih =>
    rw [List.map_cons, bind_cons]
    by_cases heq : t = u
    · rw [heq, hbound] at hid
      rw [if_pos heq, Option.some.inj hid]
    · rw [if_neg heq]
      exact ih ((List.mem_cons.mp ht).resolve_left heq)

end Values

namespace Network

/-- The report at the end of a request changes nothing. -/
theorem evaluate_program (network : Network) (slot : Nat) (inputs : Inputs) (m : Memory) :
    (network.program slot inputs).evaluate m =
      (network.runSteps slot inputs [] network.steps.zipIdx).evaluate m := by
  unfold program
  rw [Program.evaluate_bind]
  cases (network.runSteps slot inputs [] network.steps.zipIdx).evaluate m with
  | mk outcome after => cases outcome <;> rfl

/-- Before the node at a position, the block holds the constants, and each tensor produced so far whose buffer
is still alive has its bytes there. -/
structure Tracks (graph : Graph) (a : Assignment) (network : Network) (slot : Nat) (constants : Memory)
    (position : Nat) (values : Values) (m : Memory) : Prop where
  /-- The block is as it was. -/
  block : ∀ p ∈ network.pool.constants.places, ∀ x, p.Has x → m x = constants x
  /-- Tensors that may be read have their bytes. -/
  tensors : ∀ t ∈ graph.producedBefore position, ∀ id, a.bufferOf? t = some id →
    (∀ start finish, a.Spans id start finish → position ≤ finish) →
      (network.pool.placeOf slot a id).bytes m = values t

namespace Made

variable {graph : Graph} {registry : Registry} {a : Assignment} {plan : NetworkPlan}
  {before after : HostDevice} {network : Network} {slot : Nat} {region : DeviceBuffer} {node : Node}
  {position : Nat} {step : Step} {buffers : OperationBuffers} {values values' : Values} {m m' : Memory}

/-- The buffer of a tensor that was produced before a position started before it. -/
theorem lt_of_spans (made : Made graph registry a plan before network after) {t : TensorId}
    (ht : t ∈ graph.producedBefore position) {id : BufferId} (hid : a.bufferOf? t = some id)
    {start finish : Nat} (hspans : a.Spans id start finish) : start < position := by
  obtain ⟨earlier, other, hlt, hother, hmem⟩ := Graph.exists_of_mem_producedBefore ht
  obtain ⟨_, known, -, -, haccounts, -, -⟩ := made.step_eq hother
  have hout : id ∈ known.outputs := Assignment.mem_of_bufferOf? haccounts.outputs hmem hid
  exact Nat.lt_of_le_of_lt (haccounts.start_le hout hspans) hlt

/-- A constant has its data in the block. -/
theorem bytes_keeps (made : Made graph registry a plan before network after)
    (htracks : Tracks graph a network slot after.memory position values m) {id : BufferId} {data : Bytes}
    (hkeeps : a.Keeps id data) : (network.pool.placeOf slot a id).bytes m = data := by
  obtain ⟨hbytes, -, hheld⟩ := made.placeOf_keeps hkeeps slot
  rw [← hbytes]
  apply TensorPlace.bytes_congr
  intro x hx
  obtain ⟨p, hp, hblock⟩ := hheld.has (List.mem_singleton_self _) hx
  exact htracks.block p hp x hblock

/-- What a node reads are the values of its inputs. -/
theorem bytes_reads (htracks : Tracks graph a network slot after.memory position values m)
    (haccounts : a.Accounts graph position node buffers) :
    buffers.inputs.map (fun id => (network.pool.placeOf slot a id).bytes m) = node.inputs.map values := by
  have hall : ∀ t ∈ node.inputs, ∀ id ∈ buffers.inputs, a.bufferOf? t = some id →
      (network.pool.placeOf slot a id).bytes m = values t := by
    intro t ht id hid hbound
    refine htracks.tensors t (haccounts.produced t ht) id hbound ?_
    intro start finish hspans
    exact (haccounts.reads id hid start finish hspans).2
  have hforall := haccounts.inputs
  generalize node.inputs = tensors at hall hforall
  generalize buffers.inputs = ids at hall hforall
  induction hforall with
  | nil => rfl
  | cons hbound _ ih =>
    rw [List.map_cons, List.map_cons, hall _ (List.mem_cons_self ..) _ (List.mem_cons_self ..) hbound,
      ih fun t ht id hid => hall t (List.mem_cons_of_mem _ ht) id (List.mem_cons_of_mem _ hid)]

/-- A buffer that was there before a position and is alive at it lies apart from one that starts at it. -/
theorem apart_fresh (made : Made graph registry a plan before network after)
    (hregion : network.pool.region? slot = some region) {id other : BufferId} {x : AssignedBuffer}
    (hx : a.buffer? id = some x)
    (halive : ∀ start finish, a.Spans id start finish → start < position ∧ position ≤ finish) {last : Nat}
    (hfresh : a.Spans other position last) :
    (network.pool.placeOf slot a id).Apart (network.pool.placeOf slot a other) := by
  cases hcontent : x.content with
  | constant data => exact made.apart_keeps hregion ⟨x, hx, hcontent⟩ hfresh
  | transient start finish =>
    have hspans : a.Spans id start finish := ⟨x, hx, hcontent⟩
    obtain ⟨hlt, hle⟩ := halive start finish hspans
    have hlast := (made.plans.follows.orderly.spans hfresh).2.1
    have hne : id ≠ other := by
      rintro rfl
      have heq := (hspans.unique hfresh).1
      omega
    exact made.apart_spans hregion hspans hfresh hne (by omega) hle

/-- The outputs of a node that has buffers of its own for them lie apart. -/
theorem apart_outputs (made : Made graph registry a plan before network after)
    (hregion : network.pool.region? slot = some region) (haccounts : a.Accounts graph position node buffers)
    (hview : node.kind.isView = false) (hconstant : node.kind.isConstant = false) :
    (buffers.outputs.map (network.pool.placeOf slot a)).Pairwise TensorPlace.Apart := by
  obtain ⟨hnodup, hfresh⟩ := haccounts.transient hview hconstant
  refine List.pairwise_map.mpr (hnodup.imp_of_mem ?_)
  intro id other hid hother hne
  obtain ⟨finish, hspans⟩ := hfresh id hid
  obtain ⟨finish', hspans'⟩ := hfresh other hother
  have hle := (made.plans.follows.orderly.spans hspans).2.1
  have hle' := (made.plans.follows.orderly.spans hspans').2.1
  exact made.apart_spans hregion hspans hspans' hne hle' hle

/-- They also lie apart from its inputs. -/
theorem apart_inputs (made : Made graph registry a plan before network after)
    (hregion : network.pool.region? slot = some region) (haccounts : a.Accounts graph position node buffers)
    (hview : node.kind.isView = false) (hconstant : node.kind.isConstant = false) :
    ∀ p ∈ buffers.inputs.map (network.pool.placeOf slot a),
      ∀ q ∈ buffers.outputs.map (network.pool.placeOf slot a), p.Apart q := by
  have hknown := (made.buffers_known slot haccounts.inputs).1
  have hfresh := (haccounts.transient hview hconstant).2
  intro p hp q hq
  obtain ⟨id, hid, rfl⟩ := List.mem_map.mp hp
  obtain ⟨other, hother, rfl⟩ := List.mem_map.mp hq
  obtain ⟨x, hx⟩ := hknown id hid
  obtain ⟨finish, hspans⟩ := hfresh other hother
  exact made.apart_fresh hregion hx (haccounts.reads id hid) hspans

/-- A node that overwrites nothing but buffers that start at it, and leaves its data in the buffers of its
outputs, changes the values of its outputs only. -/
theorem tracks_next (made : Made graph registry a plan before network after)
    (hregion : network.pool.region? slot = some region)
    (htracks : Tracks graph a network slot after.memory position values m)
    (hnode : graph.nodes[position]? = some node) (haccounts : a.Accounts graph position node buffers)
    {fresh : List BufferId} {data : List Bytes}
    (hfresh : ∀ id ∈ fresh, ∃ finish, a.Spans id position finish)
    (hframe : ∀ x, (∀ id ∈ fresh, ¬(network.pool.placeOf slot a id).Has x) → m' x = m x)
    (hwritten : buffers.outputs.map (fun id => (network.pool.placeOf slot a id).bytes m') = data) :
    Tracks graph a network slot after.memory (position + 1) (values.bind node.outputs data) m' := by
  constructor
  · intro p hp x hx
    rw [hframe x ?_, htracks.block p hp x hx]
    intro id hid hhas
    obtain ⟨finish, hspans⟩ := hfresh id hid
    have hinside : region.place.Has x := (made.placeOf_spans hregion hspans).has hhas
    exact made.apart_block hp hregion x hx hinside
  · intro t ht id hid hlive
    by_cases hout : t ∈ node.outputs
    · rw [← hwritten]
      exact (Values.bind_eq (fun id => (network.pool.placeOf slot a id).bytes m') haccounts.outputs hout
        hid).symm
    · rw [Graph.producedBefore_succ hnode] at ht
      have hearlier := (List.mem_append.mp ht).resolve_right hout
      have hlive' : ∀ start finish, a.Spans id start finish → position ≤ finish := by
        intro start finish hspans
        have hle := hlive start finish hspans
        omega
      rw [Values.bind_of_not_mem hout, ← htracks.tensors t hearlier id hid hlive']
      apply TensorPlace.bytes_congr
      intro x hx
      apply hframe
      intro other hother
      obtain ⟨finish', hspans'⟩ := hfresh other hother
      obtain ⟨y, hy, -⟩ := made.plans.follows.orderly.tensors hid
      refine made.apart_fresh hregion hy ?_ hspans' x hx
      intro start finish hspans
      have hle := hlive start finish hspans
      exact ⟨made.lt_of_spans hearlier hid hspans, by omega⟩

/-- A step does what its node does to the values, and afterwards these are still kept track of. -/
def StepAgrees (graph : Graph) (a : Assignment) (network : Network) (slot : Nat) (constants : Memory)
    (meaning : Node → List Bytes → Except (Halt PlanError) (List Bytes)) (inputs : Inputs)
    (item : Step × Nat) (node : Node) (values : Values) (outputs : Outputs) (m : Memory) : Prop :=
  ∃ m', (network.runStep slot inputs outputs item).evaluate m =
      ((node.interpret meaning inputs values outputs).map Prod.snd, m') ∧
    ∀ values' outputs', node.interpret meaning inputs values outputs = .ok (values', outputs') →
      Tracks graph a network slot constants (item.2 + 1) values' m'

variable {meaning : Node → List Bytes → Except (Halt PlanError) (List Bytes)} {inputs : Inputs}

section Kinds

variable (made : Made graph registry a plan before network after)
  (hregion : network.pool.region? slot = some region)
  (htracks : Tracks graph a network slot after.memory position values m)
  (hnode : graph.nodes[position]? = some node)
  (haccounts : a.Accounts graph position node buffers)

include made hregion htracks hnode haccounts

/-- A parameter step binds the named input. -/
theorem stepAgrees_parameter {id : BufferId} {rest : List BufferId} {x : AssignedBuffer} {data : Bytes}
    (hkind : node.kind = .parameter) (hids : buffers.outputs = id :: rest) (hx : a.buffer? id = some x)
    (hrole : step.role = .parameter ⟨node.name, position, id, x.size⟩)
    (hdata : inputs.lookup node.name = some data) (hsize : data.length = x.size) (outputs : Outputs) :
    StepAgrees graph a network slot after.memory meaning inputs (step, position) node values outputs m := by
  have hinterpret : node.interpret meaning inputs values outputs =
      .ok (values.bind node.outputs [data], outputs) := by
    unfold Node.interpret
    rw [hkind]
    dsimp only
    rw [hdata]
  have hone : buffers.outputs = [id] := by
    have hlength := (Graph.lengths_of_arity haccounts.arity (by rw [hkind]; rfl)).2
    rw [haccounts.outputs.length_eq, hids, List.length_cons] at hlength
    have hrest : rest = [] := List.eq_nil_of_length_eq_zero (by omega)
    rw [hids, hrest]
  have hplace : (network.pool.placeOf slot a id).size = data.length := by
    rw [RegionPool.size_placeOf hx, hsize]
  refine ⟨m.write (network.pool.placeOf slot a id).start data, ?_, ?_⟩
  · rw [made.runStep_parameter hregion hrole hx hdata, Program.evaluate_bind, Program.evaluate_store,
      hinterpret]
    rfl
  · intro values' outputs' hok
    rw [hinterpret] at hok
    obtain ⟨rfl, rfl⟩ := Prod.mk.inj (Except.ok.inj hok)
    have hwritten : buffers.outputs.map (fun other => (network.pool.placeOf slot a other).bytes
        (m.write (network.pool.placeOf slot a id).start data)) = [data] := by
      rw [hone, List.map_singleton]
      unfold TensorPlace.bytes
      rw [hplace, Memory.bytes_write]
    refine made.tracks_next hregion htracks hnode haccounts
      (haccounts.transient (by rw [hkind]; rfl) (by rw [hkind]; rfl)).2 ?_ hwritten
    intro y hy
    have hout := hy id (by rw [hone]; exact List.mem_singleton_self _)
    apply Memory.write_outside
    unfold TensorPlace.Has TensorPlace.stop at hout
    omega

/-- A node that writes nothing leaves in its outputs what their buffers hold. -/
theorem tracks_same {data : List Bytes}
    (hheld : buffers.outputs.map (fun id => (network.pool.placeOf slot a id).bytes m) = data) :
    Tracks graph a network slot after.memory (position + 1) (values.bind node.outputs data) m :=
  made.tracks_next hregion htracks hnode haccounts (List.forall_mem_nil _) (fun _ _ => rfl) hheld

/-- A result step yields the value of the result. -/
theorem stepAgrees_result {id : BufferId} {rest : List BufferId} {x : AssignedBuffer}
    (hkind : node.kind = .result) (hids : buffers.inputs = id :: rest) (hx : a.buffer? id = some x)
    (hrole : step.role = .result ⟨node.name, position, id, x.size⟩) (outputs : Outputs) :
    StepAgrees graph a network slot after.memory meaning inputs (step, position) node values outputs m := by
  obtain ⟨hin, hout⟩ := Graph.lengths_of_arity haccounts.arity (by rw [hkind]; rfl)
  obtain ⟨t, ht⟩ := List.length_eq_one_iff.mp hin
  have hnil : node.outputs = [] := List.eq_nil_of_length_eq_zero hout
  have hreads := bytes_reads htracks haccounts
  rw [hids, ht, List.map_cons, List.map_singleton] at hreads
  have hvalue : m.bytes (network.pool.placeOf slot a id).address x.size = values t := by
    rw [← RegionPool.size_placeOf hx]
    exact (List.cons.inj hreads).1
  have hinterpret : node.interpret meaning inputs values outputs =
      .ok (values, outputs ++ [(node.name, values t)]) := by
    unfold Node.interpret
    rw [hkind, ht]
    rfl
  refine ⟨m, ?_, ?_⟩
  · rw [made.runStep_result hregion hrole hx, Program.evaluate_bind, Program.evaluate_fetch, hinterpret]
    dsimp only
    rw [hvalue]
    rfl
  · intro values' outputs' hok
    rw [hinterpret] at hok
    obtain ⟨rfl, rfl⟩ := Prod.mk.inj (Except.ok.inj hok)
    have hnext := made.tracks_same hregion htracks hnode haccounts rfl
    rw [hnil] at hnext
    exact hnext

/-- A step whose operation does nothing agrees with a node whose outputs are known already. -/
theorem stepAgrees_idle (hrole : step.role = .operation)
    (hoperation : step.operation = Operation.ofNode node buffers .idle) {data : List Bytes}
    (hheld : buffers.outputs.map (fun id => (network.pool.placeOf slot a id).bytes m) = data)
    {outputs : Outputs}
    (hinterpret : node.interpret meaning inputs values outputs =
      .ok (values.bind node.outputs data, outputs)) :
    StepAgrees graph a network slot after.memory meaning inputs (step, position) node values outputs m := by
  refine ⟨m, ?_, ?_⟩
  · rw [made.runStep_idle hregion haccounts hrole hoperation, hinterpret]
    rfl
  · intro values' outputs' hok
    rw [hinterpret] at hok
    obtain ⟨rfl, rfl⟩ := Prod.mk.inj (Except.ok.inj hok)
    exact made.tracks_same hregion htracks hnode haccounts hheld

/-- The data of a constant stand in the block. -/
theorem stepAgrees_constant {data : Bytes} (hkind : node.kind = .constant data)
    (hrole : step.role = .operation) (hoperation : step.operation = Operation.ofNode node buffers .idle)
    (outputs : Outputs) :
    StepAgrees graph a network slot after.memory meaning inputs (step, position) node values outputs m := by
  have hlength := (Graph.lengths_of_arity haccounts.arity (by rw [hkind]; rfl)).2
  rw [haccounts.outputs.length_eq] at hlength
  obtain ⟨id, hid⟩ := List.length_eq_one_iff.mp hlength
  have hkeeps : a.Keeps id data :=
    haccounts.constant data hkind id (by rw [hid]; exact List.mem_singleton_self _)
  have hheld : buffers.outputs.map (fun id => (network.pool.placeOf slot a id).bytes m) = [data] := by
    rw [hid, List.map_singleton, made.bytes_keeps htracks hkeeps]
  refine made.stepAgrees_idle hregion htracks hnode haccounts hrole hoperation hheld ?_
  unfold Node.interpret
  rw [hkind]

/-- A view has the bytes of its source, since it shares the buffer. -/
theorem stepAgrees_view {kind : ViewKind} (hkind : node.kind = .view kind)
    (hrole : step.role = .operation) (hoperation : step.operation = Operation.ofNode node buffers .idle)
    (outputs : Outputs) :
    StepAgrees graph a network slot after.memory meaning inputs (step, position) node values outputs m := by
  have hheld : buffers.outputs.map (fun id => (network.pool.placeOf slot a id).bytes m) =
      node.inputs.map values := by
    rw [haccounts.view (by rw [hkind]; rfl)]
    exact bytes_reads htracks haccounts
  refine made.stepAgrees_idle hregion htracks hnode haccounts hrole hoperation hheld ?_
  unfold Node.interpret
  rw [hkind]

/-- A kernel does what the function of its node says. -/
theorem stepAgrees_kernel {typeName : String} {kernel : Kernel} (hkind : node.kind = .compute typeName)
    (hrole : step.role = .operation) (hbuffers : step.operation.buffers = buffers)
    (haction : step.operation.action = .kernel kernel)
    (hcomputes : kernel.Computes (node.inputs.map graph.bytesOf) (node.outputs.map graph.bytesOf)
      (meaning node)) (outputs : Outputs) :
    StepAgrees graph a network slot after.memory meaning inputs (step, position) node values outputs m := by
  let reads := buffers.inputs.map (network.pool.placeOf slot a)
  let writes := buffers.outputs.map (network.pool.placeOf slot a)
  have hread : reads.map TensorPlace.size = node.inputs.map graph.bytesOf :=
    (made.buffers_known slot haccounts.inputs).2
  have hwrite : writes.map TensorPlace.size = node.outputs.map graph.bytesOf :=
    (made.buffers_known slot haccounts.outputs).2
  have hview : node.kind.isView = false := by rw [hkind]; rfl
  have hconstant : node.kind.isConstant = false := by rw [hkind]; rfl
  have hapart : writes.Pairwise TensorPlace.Apart := made.apart_outputs hregion haccounts hview hconstant
  have hseparate : ∀ p ∈ reads, ∀ q ∈ writes, p.Apart q :=
    made.apart_inputs hregion haccounts hview hconstant
  have hvalues : reads.map (fun p => p.bytes m) = node.inputs.map values := by
    rw [List.map_map]
    exact bytes_reads htracks haccounts
  have houtcome := hcomputes.outcome ⟨slot, network.ordinal⟩ reads writes m hread hwrite hapart hseparate
  rw [hvalues] at houtcome
  refine ⟨((kernel ⟨slot, network.ordinal⟩ reads writes).evaluate m).2, ?_, ?_⟩
  · rw [made.runStep_kernel hregion haccounts hrole hbuffers haction, Program.evaluate_bind,
      Program.evaluate_onError]
    have hpair : (kernel ⟨slot, network.ordinal⟩ reads writes).evaluate m =
        ((meaning node (node.inputs.map values)).map fun _ => (),
          ((kernel ⟨slot, network.ordinal⟩ reads writes).evaluate m).2) := Prod.ext houtcome rfl
    rw [hpair]
    unfold Node.interpret
    rw [hkind]
    cases meaning node (node.inputs.map values) <;> rfl
  · intro values' outputs' hok
    unfold Node.interpret at hok
    rw [hkind] at hok
    obtain ⟨data, hdata, heq⟩ := Except.map_eq_ok.mp hok
    obtain ⟨rfl, rfl⟩ := Prod.mk.inj heq
    have hwritten := hcomputes.written ⟨slot, network.ordinal⟩ reads writes m data hread hwrite hapart
      hseparate (by rw [hvalues]; exact hdata)
    rw [List.map_map] at hwritten
    have hfresh := (haccounts.transient hview hconstant).2
    refine made.tracks_next hregion htracks hnode haccounts hfresh ?_ hwritten
    intro x hx
    apply (hcomputes.confined ⟨slot, network.ordinal⟩ reads writes hread hwrite).evaluate_outside
    intro p hp
    obtain ⟨id, hid, rfl⟩ := List.mem_map.mp hp
    exact hx id hid

end Kinds

section Runs

variable (made : Made graph registry a plan before network after)
  (hregion : network.pool.region? slot = some region)
  (hperforms : registry.Performs graph meaning) (hinputs : network.checkInputs inputs = .ok ())

include made hregion hperforms hinputs

/-- Each step does what its node does to the values. -/
theorem runStep_agrees (htracks : Tracks graph a network slot after.memory position values m)
    (hnode : graph.nodes[position]? = some node) (hstep : network.steps[position]? = some step)
    (outputs : Outputs) :
    StepAgrees graph a network slot after.memory meaning inputs (step, position) node values outputs m := by
  obtain ⟨known, buffers, hknown, -, haccounts, hrole, hcreate⟩ := made.step_eq hnode
  rw [hstep] at hknown
  obtain rfl := Option.some.inj hknown
  rcases NetworkPlan.roleOf_eq_ok hrole with
    ⟨hkind, id, rest, x, hids, hx, hrole⟩ | ⟨hkind, id, rest, x, hids, hx, hrole⟩ |
    ⟨hparameter, hresult, hrole⟩
  · obtain ⟨data, hdata, hsize⟩ := checkInputs_eq_ok hinputs hstep hrole
    exact made.stepAgrees_parameter hregion htracks hnode haccounts hkind hids hx hrole hdata hsize outputs
  · exact made.stepAgrees_result hregion htracks hnode haccounts hkind hids hx hrole outputs
  · cases hkind : node.kind with
    | parameter => exact absurd hkind hparameter
    | result => exact absurd hkind hresult
    | constant data =>
      have hidle := hperforms.idle_of_kind (Or.inr (by rw [hkind]; rfl)) hcreate
      exact made.stepAgrees_constant hregion htracks hnode haccounts hkind hrole hidle outputs
    | view kind =>
      have hidle := hperforms.idle_of_kind (Or.inl (by rw [hkind]; rfl)) hcreate
      exact made.stepAgrees_view hregion htracks hnode haccounts hkind hrole hidle outputs
    | compute typeName =>
      obtain ⟨hbuffers, kernel, haction, hcomputes⟩ :=
        hperforms.kernels node (List.mem_of_getElem? hnode) typeName hkind buffers step.operation hcreate
      exact made.stepAgrees_kernel hregion htracks hnode haccounts hkind hrole hbuffers haction hcomputes
        outputs

/-- The steps from a position on yield what the nodes from there on mean. -/
theorem runSteps_agrees {items : List (Step × Nat)} {nodes : List Node}
    (hitems : network.steps.zipIdx.drop position = items) (hnodes : graph.nodes.drop position = nodes)
    (htracks : Tracks graph a network slot after.memory position values m) (outputs : Outputs) :
    ((network.runSteps slot inputs outputs items).evaluate m).1 =
      Node.interpretAll meaning inputs values outputs nodes := by
  have hlength : network.steps.length = graph.nodes.length := by
    have hsteps := (Except.mapM_eq_ok.mp made.plans.steps).length_eq
    rw [made.steps, ← hsteps]
    exact List.length_zipIdx
  induction nodes generalizing position values m outputs items with
  | nil =>
    have hlast := List.drop_eq_nil_iff.mp hnodes
    have hnil : items = [] := by
      rw [← hitems]
      apply List.drop_eq_nil_of_le
      rw [List.length_zipIdx, hlength]
      exact hlast
    rw [hnil]
    rfl
  | cons node rest ih =>
    have hlt : position < graph.nodes.length := by
      by_contra hnot
      rw [List.drop_eq_nil_of_le (by omega)] at hnodes
      cases hnodes
    have hlt' : position < network.steps.zipIdx.length := by
      rw [List.length_zipIdx, hlength]
      exact hlt
    rw [List.drop_eq_getElem_cons hlt] at hnodes
    rw [List.drop_eq_getElem_cons hlt', List.getElem_zipIdx, Nat.zero_add] at hitems
    obtain ⟨rfl, hrest⟩ := List.cons.inj hnodes
    subst hitems
    obtain ⟨m', hevaluate, hnext⟩ := made.runStep_agrees hregion hperforms hinputs htracks
      (List.getElem?_eq_getElem hlt) (List.getElem?_eq_getElem (by omega)) outputs
    unfold runSteps Node.interpretAll
    rw [Program.evaluate_bind, hevaluate]
    cases hinterpret : graph.nodes[position].interpret meaning inputs values outputs with
    | error halt => rfl
    | ok reached => exact ih rfl hrest (hnext reached.1 reached.2 hinterpret) reached.2

/-- A request yields what the graph means, whatever its region holds. -/
theorem program_agrees (hblock : ∀ p ∈ network.pool.constants.places, ∀ x, p.Has x → m x = after.memory x) :
    ((network.program slot inputs).evaluate m).1 = graph.interpret meaning inputs := by
  have htracks : Tracks graph a network slot after.memory 0 (fun _ => []) m := by
    refine ⟨hblock, ?_⟩
    intro t ht
    cases ht
  have hsteps := made.runSteps_agrees hregion hperforms hinputs rfl rfl htracks []
  rw [List.drop_zero, List.drop_zero] at hsteps
  rw [evaluate_program]
  exact hsteps

end Runs

end Made
end Network
end MemoryPlan
