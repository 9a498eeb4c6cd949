import MemoryPlan.Proofs.Network.Addresses
import MemoryPlan.Proofs.Network.Reference
/-!
# Steps of a network

Each step of a compiled network belongs to the node at its position. On a slot of the pool it reads only the
block of constants and the region of the slot, and writes only that region: the request as a whole is
confined.
-/

namespace MemoryPlan

namespace NetworkPlan

variable {a : Assignment} {registry : Registry} {node : Node} {position : Nat} {buffers : OperationBuffers}

/-- The step of a node has the buffers of the node, its role and its operation. -/
theorem stepOf_eq_ok {step : Step} (h : stepOf a registry (node, position) = .ok step) :
    ∃ buffers, a.nodes[position]? = some buffers ∧ roleOf a node position buffers = .ok step.role ∧
      registry.create node buffers = .ok step.operation := by
  unfold stepOf Assignment.nodeBuffers? at h
  split at h
  · cases h
  · next buffers hbuffers =>
    obtain ⟨role, hrole, h⟩ := Except.bind_eq_ok.mp h
    obtain ⟨operation, hoperation, h⟩ := Except.bind_eq_ok.mp h
    obtain rfl := Except.pure_eq_ok.mp h
    exact ⟨buffers, hbuffers, hrole, hoperation⟩

/-- A binding names the first buffer of its node, with its size. -/
theorem bindingOf_eq_ok {name : String} {ids : List BufferId} {binding : Binding}
    (h : bindingOf a name position ids = .ok binding) :
    ∃ id rest x, ids = id :: rest ∧ a.buffer? id = some x ∧ binding = ⟨name, position, id, x.size⟩ := by
  unfold bindingOf at h
  split at h
  · cases h
  · next id rest =>
    obtain ⟨size, hsize, rfl⟩ := Except.map_eq_ok.mp h
    obtain ⟨x, hx, rfl⟩ := Assignment.bufferSize_eq_ok.mp hsize
    exact ⟨id, rest, x, rfl, hx, rfl⟩

/-- What a request does at a node, by the kind of the node. -/
theorem roleOf_eq_ok {role : Role} (h : roleOf a node position buffers = .ok role) :
    (node.kind = .parameter ∧ ∃ id rest x, buffers.outputs = id :: rest ∧ a.buffer? id = some x ∧
      role = .parameter ⟨node.name, position, id, x.size⟩) ∨
    (node.kind = .result ∧ ∃ id rest x, buffers.inputs = id :: rest ∧ a.buffer? id = some x ∧
      role = .result ⟨node.name, position, id, x.size⟩) ∨
    (node.kind ≠ .parameter ∧ node.kind ≠ .result ∧ role = .operation) := by
  unfold roleOf at h
  split at h
  · next hkind =>
    obtain ⟨binding, hbinding, rfl⟩ := Except.map_eq_ok.mp h
    obtain ⟨id, rest, x, hids, hx, rfl⟩ := bindingOf_eq_ok hbinding
    exact Or.inl ⟨hkind, id, rest, x, hids, hx, rfl⟩
  · next hkind =>
    obtain ⟨binding, hbinding, rfl⟩ := Except.map_eq_ok.mp h
    obtain ⟨id, rest, x, hids, hx, rfl⟩ := bindingOf_eq_ok hbinding
    exact Or.inr (Or.inl ⟨hkind, id, rest, x, hids, hx, rfl⟩)
  · next hparameter hresult =>
    exact Or.inr (Or.inr ⟨hparameter, hresult, (Except.ok.inj h).symm⟩)

/-- The step of a parameter binds the first buffer that the node writes, and no other step binds an input. -/
theorem parameter?_of_stepOf {step : Step} (h : stepOf a registry (node, position) = .ok step) :
    if node.kind = .parameter then
      ∃ buffers id rest x, a.nodes[position]? = some buffers ∧ buffers.outputs = id :: rest ∧
        a.buffer? id = some x ∧ step.parameter? = some ⟨node.name, position, id, x.size⟩
    else step.parameter? = none := by
  obtain ⟨buffers, hbuffers, hrole, -⟩ := stepOf_eq_ok h
  unfold Step.parameter?
  obtain ⟨hkind, id, rest, x, hids, hx, hself⟩ | ⟨hkind, id, rest, x, -, -, hself⟩ | ⟨hkind, -, hself⟩ :=
    roleOf_eq_ok hrole
  · rw [hself, if_pos hkind]
    exact ⟨buffers, id, rest, x, hbuffers, hids, hx, rfl⟩
  · rw [hself, hkind]
    exact rfl
  · rw [hself, if_neg hkind]

/-- The bindings of the steps belong to the nodes of one kind, in order. -/
theorem forall₂_bindings {kind : NodeKind} {binding? : Step → Option Binding} {Fits : Node × Nat → Binding → Prop}
    {items : List (Node × Nat)} {steps : List Step}
    (hbinding : ∀ item ∈ items, ∀ step, stepOf a registry item = .ok step →
      if item.1.kind = kind then ∃ binding, binding? step = some binding ∧ Fits item binding
      else binding? step = none)
    (h : items.mapM (stepOf a registry) = .ok steps) :
    List.Forall₂ Fits (items.filter fun item => item.1.kind == kind) (steps.filterMap binding?) := by
  have hall := Except.mapM_eq_ok.mp h
  clear h
  induction hall with
  | nil => exact .nil
  | @cons item step rest others hstep _ ih =>
    obtain ⟨hself, hrest⟩ := List.forall_mem_cons.mp hbinding
    have hitem := hself step hstep
    by_cases hkind : item.1.kind = kind
    · rw [if_pos hkind] at hitem
      obtain ⟨binding, hsome, hfits⟩ := hitem
      rw [List.filterMap_cons_some hsome, List.filter_cons_of_pos (by simpa using hkind)]
      exact .cons hfits (ih hrest)
    · rw [if_neg hkind] at hitem
      rw [List.filterMap_cons_none hitem, List.filter_cons_of_neg (by simpa using hkind)]
      exact ih hrest

end NetworkPlan

namespace Network

/-- Accepted inputs bind the parameter of each parameter step with its size. -/
theorem checkInputs_eq_ok {network : Network} {inputs : Inputs} (h : network.checkInputs inputs = .ok ())
    {position : Nat} {step : Step} (hstep : network.steps[position]? = some step) {binding : Binding}
    (hrole : step.role = .parameter binding) :
    ∃ data, inputs.lookup binding.name = some data ∧ data.length = binding.size := by
  have hmem : binding ∈ network.parameters := by
    refine List.mem_filterMap.mpr ⟨step, List.mem_of_getElem? hstep, ?_⟩
    unfold Step.parameter?
    rw [hrole]
  unfold checkInputs at h
  obtain ⟨_, -, h⟩ := Except.bind_eq_ok.mp h
  have hbound := Except.forM_eq_ok.mp h binding hmem
  unfold checkBound at hbound
  split at hbound
  · cases hbound
  · next data hdata =>
    split at hbound
    · next hsize => exact ⟨data, hdata, hsize⟩
    · cases hbound

namespace Made

variable {graph : Graph} {registry : Registry} {a : Assignment} {plan : NetworkPlan}
  {before after : HostDevice} {network : Network} {slot : Nat} {region : DeviceBuffer} {node : Node}
  {position : Nat} {step : Step} {buffers : OperationBuffers}

/-- The step at a position belongs to the node at that position. -/
theorem step_eq (made : Made graph registry a plan before network after)
    (hnode : graph.nodes[position]? = some node) :
    ∃ step buffers, network.steps[position]? = some step ∧ a.nodes[position]? = some buffers ∧
      a.Accounts graph position node buffers ∧
      NetworkPlan.roleOf a node position buffers = .ok step.role ∧
      registry.create node buffers = .ok step.operation := by
  have hsteps := Except.mapM_eq_ok.mp made.plans.steps
  have hitem : graph.positioned[position]? = some (node, position) :=
    Graph.getElem?_positioned.mpr ⟨hnode, rfl⟩
  obtain ⟨hi, hget⟩ := List.getElem?_eq_some_iff.mp hitem
  have hj : position < plan.steps.length := by
    rw [← hsteps.length_eq]
    exact hi
  have hstep := hsteps.get hi hj
  simp only [List.get_eq_getElem] at hstep
  rw [hget] at hstep
  obtain ⟨buffers, hbuffers, hrole, hcreate⟩ := NetworkPlan.stepOf_eq_ok hstep
  obtain ⟨hlt, -⟩ := List.getElem?_eq_some_iff.mp hnode
  obtain ⟨known, hknown, haccounts⟩ := made.plans.follows.accounts hlt hnode
  rw [hbuffers] at hknown
  obtain rfl := Option.some.inj hknown
  have hget' : network.steps[position]? = some plan.steps[position] := by
    rw [made.steps]
    exact List.getElem?_eq_getElem hj
  exact ⟨_, buffers, hget', hbuffers, haccounts, hrole, hcreate⟩

/-- The buffers of the tensors of a node are known, and have the sizes of these tensors. -/
theorem buffers_known (made : Made graph registry a plan before network after) (slot : Nat)
    {tensors : List TensorId} {ids : List BufferId}
    (h : List.Forall₂ (fun t id => a.bufferOf? t = some id) tensors ids) :
    (∀ id ∈ ids, ∃ x, a.buffer? id = some x) ∧
      (ids.map (network.pool.placeOf slot a)).map TensorPlace.size = tensors.map graph.bytesOf := by
  induction h with
  | nil => simp
  | cons hbound _ ih =>
    obtain ⟨x, hx, hsize⟩ := made.plans.follows.orderly.tensors hbound
    refine ⟨List.forall_mem_cons.mpr ⟨⟨x, hx⟩, ih.1⟩, ?_⟩
    rw [List.map_cons, List.map_cons, List.map_cons, ih.2, RegionPool.size_placeOf hx, hsize]

/-- Each buffer as a place, from its address and its size. -/
theorem places_eq (made : Made graph registry a plan before network after) (slot : Nat)
    {tensors : List TensorId} {ids : List BufferId}
    (h : List.Forall₂ (fun t id => a.bufferOf? t = some id) tensors ids) {sizes : List Nat}
    (hsizes : sizes = tensors.map graph.bytesOf) :
    Operation.places (ids.map fun id => (network.pool.placeOf slot a id).address) sizes =
      .ok (ids.map (network.pool.placeOf slot a)) := by
  obtain ⟨-, hown⟩ := made.buffers_known slot h
  unfold Operation.places
  rw [hsizes, ← hown, List.map_map, if_pos (by simp), List.zipWith_map, List.zipWith_self]
  rfl

variable (made : Made graph registry a plan before network after)
  (hregion : network.pool.region? slot = some region)

include made hregion

/-- Known buffers are all found. -/
theorem resolveAll_eq {ids : List BufferId} (hknown : ∀ id ∈ ids, ∃ x, a.buffer? id = some x) :
    network.pool.resolveAll slot ids = .ok (ids.map fun id => (network.pool.placeOf slot a id).address) := by
  unfold RegionPool.resolveAll
  apply Except.mapM_eq_ok.mpr
  rw [List.forall₂_map_right_iff, List.forall₂_same]
  intro id hid
  obtain ⟨x, hx⟩ := hknown id hid
  exact made.resolve_eq hregion hx

/-- A buffer lies in the block or in the region of the slot. -/
theorem held_placeOf {ids : List BufferId} (hknown : ∀ id ∈ ids, ∃ x, a.buffer? id = some x) :
    TensorPlace.Held (ids.map (network.pool.placeOf slot a))
      (network.pool.constants.places ++ [region.place]) := by
  intro p hp hpos
  obtain ⟨id, hid, rfl⟩ := List.mem_map.mp hp
  obtain ⟨x, hx⟩ := hknown id hid
  cases hcontent : x.content with
  | constant data =>
    obtain ⟨-, -, hheld⟩ := made.placeOf_keeps ⟨x, hx, hcontent⟩ slot
    obtain ⟨q, hq, hcovers⟩ := hheld _ (List.mem_singleton_self _) hpos
    exact ⟨q, List.mem_append_left _ hq, hcovers⟩
  | transient start finish =>
    exact ⟨_, List.mem_append_right _ (List.mem_singleton_self _),
      made.placeOf_spans hregion ⟨x, hx, hcontent⟩⟩

/-- Transients lie in the region of the slot. -/
theorem held_spans {ids : List BufferId} (hspans : ∀ id ∈ ids, ∃ start finish, a.Spans id start finish) :
    TensorPlace.Held (ids.map (network.pool.placeOf slot a)) [region.place] := by
  intro p hp _
  obtain ⟨id, hid, rfl⟩ := List.mem_map.mp hp
  obtain ⟨start, finish, hspan⟩ := hspans id hid
  exact ⟨_, List.mem_singleton_self _, made.placeOf_spans hregion hspan⟩

/-- What an operation step does on a slot: its kernel runs on the places of its buffers. -/
theorem runStep_kernel {kernel : Kernel} (haccounts : a.Accounts graph position node buffers)
    (hrole : step.role = .operation) (hbuffers : step.operation.buffers = buffers)
    (haction : step.operation.action = .kernel kernel) (inputs : Inputs) (outputs : Outputs) :
    network.runStep slot inputs outputs (step, position) = (do
      Program.onError (network.failedEvent position step.operation)
        (kernel ⟨slot, network.ordinal⟩ (buffers.inputs.map (network.pool.placeOf slot a))
          (buffers.outputs.map (network.pool.placeOf slot a)))
      return outputs) := by
  obtain ⟨hin, -⟩ := made.buffers_known slot haccounts.inputs
  obtain ⟨hout, -⟩ := made.buffers_known slot haccounts.outputs
  unfold runStep
  rw [hrole]
  dsimp only
  rw [hbuffers, made.resolveAll_eq hregion hin, made.resolveAll_eq hregion hout]
  change (Program.onError _ (step.operation.perform _ _ _) >>= _) = _
  unfold Operation.perform
  rw [haction]
  dsimp only
  rw [hbuffers, made.places_eq slot haccounts.inputs haccounts.inputSizes,
    made.places_eq slot haccounts.outputs haccounts.outputSizes]
  rfl

/-- A step whose operation does nothing passes the outputs on. -/
theorem runStep_idle (haccounts : a.Accounts graph position node buffers) (hrole : step.role = .operation)
    (hoperation : step.operation = Operation.ofNode node buffers .idle) (inputs : Inputs)
    (outputs : Outputs) :
    network.runStep slot inputs outputs (step, position) = .done outputs := by
  obtain ⟨hin, -⟩ := made.buffers_known slot haccounts.inputs
  obtain ⟨hout, -⟩ := made.buffers_known slot haccounts.outputs
  have hbuffers : step.operation.buffers = buffers := by
    rw [hoperation]
    rfl
  unfold runStep
  rw [hrole]
  dsimp only
  rw [hbuffers, made.resolveAll_eq hregion hin, made.resolveAll_eq hregion hout, hoperation]
  rfl

/-- A parameter step writes the named input into its buffer. -/
theorem runStep_parameter {binding : Binding} {x : AssignedBuffer} {data : Bytes}
    (hrole : step.role = .parameter binding) (hx : a.buffer? binding.buffer = some x) {inputs : Inputs}
    (hdata : inputs.lookup binding.name = some data) (outputs : Outputs) :
    network.runStep slot inputs outputs (step, position) = (do
      Program.store (network.pool.placeOf slot a binding.buffer).address data
      return outputs) := by
  unfold runStep
  rw [hrole]
  dsimp only
  rw [hdata, made.resolve_eq hregion hx]
  rfl

/-- A result step reads its buffer. -/
theorem runStep_result {binding : Binding} {x : AssignedBuffer} (hrole : step.role = .result binding)
    (hx : a.buffer? binding.buffer = some x) (inputs : Inputs) (outputs : Outputs) :
    network.runStep slot inputs outputs (step, position) = (do
      let data ← Program.fetch (network.pool.placeOf slot a binding.buffer).address binding.size
      return outputs ++ [(binding.name, data)]) := by
  unfold runStep
  rw [hrole]
  dsimp only
  rw [made.resolve_eq hregion hx]
  rfl

/-- To write a transient as a whole stays within the region. -/
theorem store_within {id : BufferId} {x : AssignedBuffer} {data : Bytes} (hx : a.buffer? id = some x)
    (hspans : ∃ start finish, a.Spans id start finish) (hsize : data.length = x.size)
    (reads : List TensorPlace) :
    (Program.store (network.pool.placeOf slot a id).address data).Within reads [region.place] := by
  have hheld : TensorPlace.Held [network.pool.placeOf slot a id] [region.place] :=
    made.held_spans hregion (List.forall_mem_singleton.mpr hspans)
  have hlength : data.length = (network.pool.placeOf slot a id).size := by
    rw [RegionPool.size_placeOf hx, hsize]
  apply Program.within_store
  rw [hlength]
  exact hheld.granted

/-- To read a buffer as a whole stays within the block and the region. -/
theorem fetch_within {id : BufferId} {x : AssignedBuffer} (hx : a.buffer? id = some x)
    (writes : List TensorPlace) :
    (Program.fetch (network.pool.placeOf slot a id).address x.size).Within
      (network.pool.constants.places ++ [region.place]) writes := by
  have hheld : TensorPlace.Held [network.pool.placeOf slot a id]
      (network.pool.constants.places ++ [region.place]) :=
    made.held_placeOf hregion (List.forall_mem_singleton.mpr ⟨x, hx⟩)
  apply Program.within_fetch
  rw [← RegionPool.size_placeOf hx]
  exact hheld.granted

/-- A confined kernel on the places of the buffers of its node stays within the block and the region. -/
theorem kernel_within {kernel : Kernel} (haccounts : a.Accounts graph position node buffers)
    (hspans : ∀ id ∈ buffers.outputs, ∃ start finish, a.Spans id start finish)
    (hconfined : kernel.Confined (node.inputs.map graph.bytesOf) (node.outputs.map graph.bytesOf))
    (context : KernelContext) :
    (kernel context (buffers.inputs.map (network.pool.placeOf slot a))
      (buffers.outputs.map (network.pool.placeOf slot a))).Within
        (network.pool.constants.places ++ [region.place]) [region.place] := by
  obtain ⟨hknown, hreads⟩ := made.buffers_known slot haccounts.inputs
  obtain ⟨-, hwrites⟩ := made.buffers_known slot haccounts.outputs
  have hwithin := hconfined context _ _ hreads hwrites
  exact hwithin.mono (made.held_placeOf hregion hknown) (made.held_spans hregion hspans)

/-- Each step stays within the block of constants and the region of the slot, and writes the region only. -/
theorem runStep_within (hconfines : registry.Confines graph) {inputs : Inputs}
    (hinputs : network.checkInputs inputs = .ok ()) (hnode : graph.nodes[position]? = some node)
    (hstep : network.steps[position]? = some step) (outputs : Outputs) :
    (network.runStep slot inputs outputs (step, position)).Within
      (network.pool.constants.places ++ [region.place]) [region.place] := by
  obtain ⟨known, buffers, hknown, -, haccounts, hrole, hcreate⟩ := made.step_eq hnode
  rw [hstep] at hknown
  obtain rfl := Option.some.inj hknown
  have hspans : node.kind.isView = false → node.kind.isConstant = false →
      ∀ id ∈ buffers.outputs, ∃ start finish, a.Spans id start finish :=
    fun hview hconstant id hid => ⟨position, (haccounts.transient hview hconstant).2 id hid⟩
  rcases NetworkPlan.roleOf_eq_ok hrole with
    ⟨hkind, id, rest, x, hids, hx, hrole⟩ | ⟨hkind, id, rest, x, hids, hx, hrole⟩ |
    ⟨hparameter, hresult, hrole⟩
  · obtain ⟨data, hdata, hsize⟩ := checkInputs_eq_ok hinputs hstep hrole
    have hout : id ∈ buffers.outputs := by
      rw [hids]
      exact List.mem_cons_self ..
    have hown := hspans (by rw [hkind]; rfl) (by rw [hkind]; rfl) id hout
    rw [made.runStep_parameter hregion hrole hx hdata]
    exact (made.store_within hregion hx hown hsize _).bind fun _ => trivial
  · rw [made.runStep_result hregion hrole hx]
    exact (made.fetch_within hregion hx _).bind fun _ => trivial
  · have hidle : node.kind.isView = true ∨ node.kind.isConstant = true →
        (network.runStep slot inputs outputs (step, position)).Within
          (network.pool.constants.places ++ [region.place]) [region.place] := by
      intro hkind
      rw [made.runStep_idle hregion haccounts hrole (hconfines.idle_of_kind hkind hcreate)]
      trivial
    cases hkind : node.kind with
    | parameter => exact absurd hkind hparameter
    | result => exact absurd hkind hresult
    | constant data => exact hidle (Or.inr (by rw [hkind]; rfl))
    | view kind => exact hidle (Or.inl (by rw [hkind]; rfl))
    | compute typeName =>
      obtain ⟨hbuffers, kernel, haction, hconfined⟩ :=
        hconfines.kernels node (List.mem_of_getElem? hnode) typeName hkind buffers step.operation hcreate
      have hown := hspans (by rw [hkind]; rfl) (by rw [hkind]; rfl)
      rw [made.runStep_kernel hregion haccounts hrole hbuffers haction]
      exact ((made.kernel_within hregion haccounts hown hconfined _).onError _).bind fun _ => trivial

/-- The steps of a request stay within the block of constants and the region of the slot. -/
theorem runSteps_within (hconfines : registry.Confines graph) {inputs : Inputs}
    (hinputs : network.checkInputs inputs = .ok ()) (outputs : Outputs) (items : List (Step × Nat))
    (hitems : ∀ item ∈ items, network.steps[item.2]? = some item.1) :
    (network.runSteps slot inputs outputs items).Within
      (network.pool.constants.places ++ [region.place]) [region.place] := by
  induction items generalizing outputs with
  | nil => trivial
  | cons item rest ih =>
    have hstep := hitems item (List.mem_cons_self ..)
    obtain ⟨node, hnode⟩ : ∃ node, graph.nodes[item.2]? = some node := by
      obtain ⟨hlt, -⟩ := List.getElem?_eq_some_iff.mp hstep
      have hlength := (Except.mapM_eq_ok.mp made.plans.steps).length_eq
      rw [made.steps, ← hlength] at hlt
      exact ⟨_, List.getElem?_eq_getElem (by simpa [Graph.positioned] using hlt)⟩
    unfold runSteps
    refine Program.Within.bind (made.runStep_within hregion hconfines hinputs hnode hstep outputs) ?_
    intro more
    exact ih more fun other hother => hitems other (List.mem_cons_of_mem item hother)

/-- A request with accepted inputs is confined to the block of constants and the region of its slot. -/
theorem program_within (hconfines : registry.Confines graph) {inputs : Inputs}
    (hinputs : network.checkInputs inputs = .ok ()) :
    (network.program slot inputs).Within
      (network.pool.constants.places ++ [region.place]) [region.place] := by
  unfold program
  refine Program.Within.bind (made.runSteps_within hregion hconfines hinputs [] _ ?_) fun _ => trivial
  rintro ⟨step, position⟩ hitem
  exact List.mem_zipIdx_iff_getElem?.mp hitem

end Made
end Network
end MemoryPlan
