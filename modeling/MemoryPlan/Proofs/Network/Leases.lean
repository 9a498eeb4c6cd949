import MemoryPlan.Proofs.Lending.Conservation
import MemoryPlan.Proofs.Network.Serving
/-!
# Addresses of leases

Every address that a lease resolves is valid and private: a constant lies in the block of constants, a transient in
the region of the lease, and the regions of two held leases are different ones. An operation gets an address for
each of its sizes, so that its kernel is always called.
-/

namespace MemoryPlan

/-- A run permutes the slots of a desk. -/
theorem Desk.slots_run (desk : Desk) (sections : List Section) : (desk.run sections).slots.Perm desk.slots := by
  induction sections generalizing desk with
  | nil => exact List.Perm.refl _
  | cons critical rest ih => exact (ih (desk.step critical)).trans (slots_step desk critical)

namespace Network

/-- What a lease on a slot resolves, on a device that holds the memory of the network: where a buffer is found is
its place on the slot. -/
structure Addressed (graph : Graph) (registry : Registry) (a : Assignment) (network : Network)
    (device : HostDevice) (slot : Nat) : Prop where
  /-- Every buffer of the assignment has its address, and a place of its size. -/
  resolved : ∀ id, (a.buffer? id).isSome →
    network.pool.resolve slot id = .ok (network.pool.placeOf slot a id).address ∧
      a.bufferSize id = .ok (network.pool.placeOf slot a id).size
  /-- Any other buffer is refused. -/
  refused : ∀ id, a.buffer? id = none → network.pool.resolve slot id = .error (.unknownBuffer id)
  /-- A constant that has bytes lies in the allocation of the block. -/
  constant : ∀ id ∈ a.constantIds, 0 < (network.pool.placeOf slot a id).size →
    ∃ block, network.pool.constants.buffer = some block ∧ block.place ∈ device.extents ∧
      block.place.Covers (network.pool.placeOf slot a id).start (network.pool.placeOf slot a id).size
  /-- A transient lies in the region of the lease. -/
  transient : ∀ id ∈ a.transientIds,
    ∃ region, network.pool.region? slot = some region ∧ region.place ∈ device.extents ∧
      region.place.Covers (network.pool.placeOf slot a id).start (network.pool.placeOf slot a id).size
  /-- No transient has a byte of the block. -/
  apart : ∀ id ∈ a.transientIds, ∀ block, network.pool.constants.buffer = some block →
    (network.pool.placeOf slot a id).Apart block.place
  /-- The buffers of a node have as many addresses as sizes. -/
  lists : ∀ position buffers, a.nodeBuffers? position = some buffers →
    ∃ reads writes, network.pool.resolveAll slot buffers.inputs = .ok reads ∧
      network.pool.resolveAll slot buffers.outputs = .ok writes ∧
      reads.length = buffers.inputSizes.length ∧ writes.length = buffers.outputSizes.length
  /-- A registered kernel becomes the operation of its node, on the buffers of the node. -/
  registered : ∀ position node step kernel, graph.nodes[position]? = some node →
    network.steps[position]? = some step → registry.factory? node.kind.typeName = some (.ofKernel kernel) →
      a.nodeBuffers? position = some step.operation.buffers ∧ step.operation.action = .kernel kernel
  /-- A request that performs an operation on the buffers of its node calls the kernel, with their places. -/
  called : ∀ position step kernel, network.steps[position]? = some step → step.role = .operation →
    a.nodeBuffers? position = some step.operation.buffers → step.operation.action = .kernel kernel →
      ∀ inputs outputs, network.runStep slot inputs outputs (step, position) = (do
        Program.onError (network.failedEvent position step.operation)
          (kernel ⟨slot, network.ordinal⟩
            (step.operation.buffers.inputs.map (network.pool.placeOf slot a))
            (step.operation.buffers.outputs.map (network.pool.placeOf slot a)))
        return outputs)

namespace Made

variable {graph : Graph} {registry : Registry} {a : Assignment} {plan : NetworkPlan}
  {before after : HostDevice} {network : Network} {slot : Nat} {region : DeviceBuffer} {id : BufferId}
  {position : Nat} {buffers : OperationBuffers}

/-- The block and the regions are live. -/
theorem mem_extents (made : Made graph registry a plan before network after) {p : TensorPlace}
    (hp : p ∈ network.pool.places) : p ∈ after.extents := by
  rw [made.grown.extents]
  exact List.mem_append_right _ hp

/-- A buffer that the assignment does not know is neither a constant nor a transient of the pool. -/
theorem resolve_none (made : Made graph registry a plan before network after) (slot : Nat)
    (hnone : a.buffer? id = none) : network.pool.resolve slot id = .error (.unknownBuffer id) := by
  have hblock : network.pool.constants.address? id = none := by
    apply made.address?_eq_none
    rintro data ⟨x, hx, -⟩
    simp [hnone] at hx
  have hlayout : network.pool.layout.offset? id = none := by
    rw [made.layout]
    cases hoffset : plan.transients.layout.offset? id with
    | none => rfl
    | some offset =>
      obtain ⟨t, ht, rfl⟩ := made.plans.valid.isSome_offset?_iff.mp (Option.isSome_of_eq_some hoffset)
      obtain ⟨x, hx, -⟩ := made.plans.spans t ht
      simp [hnone] at hx
  unfold RegionPool.resolve
  rw [hblock, hlayout]

/-- The node that has the buffers at a position, and what the assignment says about it. -/
theorem accounts_of_nodeBuffers? (made : Made graph registry a plan before network after)
    (hbuffers : a.nodeBuffers? position = some buffers) :
    ∃ node, graph.nodes[position]? = some node ∧ a.Accounts graph position node buffers := by
  have hlength : a.nodes.length = graph.nodes.length := made.plans.follows.length
  obtain ⟨hlt, -⟩ := List.getElem?_eq_some_iff.mp hbuffers
  rw [hlength] at hlt
  have hnode : graph.nodes[position]? = some graph.nodes[position] := List.getElem?_eq_getElem hlt
  obtain ⟨known, hknown, haccounts⟩ := made.plans.follows.accounts hlt hnode
  obtain rfl : known = buffers := Option.some.inj (hknown.symm.trans hbuffers)
  exact ⟨_, hnode, haccounts⟩

/-- The buffers of some tensors of a node have as many addresses as sizes. -/
theorem resolveAll_length (made : Made graph registry a plan before network after)
    (hregion : network.pool.region? slot = some region) {tensors : List TensorId} {ids : List BufferId}
    (h : List.Forall₂ (fun t id => a.bufferOf? t = some id) tensors ids) {sizes : List Nat}
    (hsizes : sizes = tensors.map graph.bytesOf) :
    ∃ addresses, network.pool.resolveAll slot ids = .ok addresses ∧ addresses.length = sizes.length := by
  have hknown := (made.buffers_known slot h).1
  refine ⟨_, made.resolveAll_eq hregion hknown, ?_⟩
  rw [hsizes, List.length_map, List.length_map, h.length_eq]

/-- A registered kernel becomes the operation of its node. -/
theorem operation_of_kernel (made : Made graph registry a plan before network after) {node : Node}
    {step : Step} {kernel : Kernel} (hnode : graph.nodes[position]? = some node)
    (hstep : network.steps[position]? = some step)
    (hfactory : registry.factory? node.kind.typeName = some (.ofKernel kernel)) :
    a.nodeBuffers? position = some step.operation.buffers ∧ step.operation.action = .kernel kernel := by
  obtain ⟨known, buffers, hknown, hbuffers, -, -, hcreate⟩ := made.step_eq hnode
  obtain rfl : known = step := Option.some.inj (hknown.symm.trans hstep)
  unfold Registry.create at hcreate
  rw [hfactory] at hcreate
  have hoperation : Operation.ofNode node buffers (.kernel kernel) = known.operation := Except.ok.inj hcreate
  rw [← hoperation]
  exact ⟨hbuffers, rfl⟩

/-- The lease on a region resolves every buffer to its own place. -/
theorem addressed (made : Made graph registry a plan before network after)
    (hregion : network.pool.region? slot = some region) :
    Addressed graph registry a network after slot := by
  have horderly := made.plans.follows.orderly
  have hplace : region.place ∈ network.pool.places :=
    List.mem_append_right _ (List.mem_map_of_mem (List.mem_of_getElem? hregion))
  constructor
  case resolved =>
    intro id hsome
    obtain ⟨x, hx⟩ := Option.isSome_iff_exists.mp hsome
    refine ⟨made.resolve_eq hregion hx, Assignment.bufferSize_eq_ok.mpr ⟨x, hx, ?_⟩⟩
    exact (RegionPool.size_placeOf hx).symm
  case refused => exact fun id hnone => made.resolve_none slot hnone
  case constant =>
    intro id hid hpos
    obtain ⟨data, hkeeps⟩ := (Assignment.mem_constantIds_iff horderly).mp hid
    obtain ⟨-, -, hheld⟩ := made.placeOf_keeps hkeeps slot
    obtain ⟨p, hp, hcovers⟩ := hheld _ (List.mem_singleton_self _) hpos
    have hlive : p ∈ after.extents := made.mem_extents (List.mem_append_left _ hp)
    unfold ConstantBlock.places at hp
    cases hblock : network.pool.constants.buffer with
    | none => simp [hblock] at hp
    | some block =>
      obtain rfl : p = block.place := by simpa [hblock] using hp
      exact ⟨block, rfl, hlive, hcovers⟩
  case transient =>
    intro id hid
    obtain ⟨start, finish, hspans⟩ := (Assignment.mem_transientIds_iff horderly).mp hid
    exact ⟨region, hregion, made.mem_extents hplace, made.placeOf_spans hregion hspans⟩
  case apart =>
    intro id hid block hblock x hx
    obtain ⟨start, finish, hspans⟩ := (Assignment.mem_transientIds_iff horderly).mp hid
    have hmem : block.place ∈ network.pool.constants.places := by
      unfold ConstantBlock.places
      rw [hblock]
      exact List.mem_singleton_self _
    exact (made.apart_block hmem hregion).symm x ((made.placeOf_spans hregion hspans).has hx)
  case lists =>
    intro position buffers hbuffers
    obtain ⟨node, -, haccounts⟩ := made.accounts_of_nodeBuffers? hbuffers
    obtain ⟨reads, hreads, hinputs⟩ :=
      made.resolveAll_length hregion haccounts.inputs haccounts.inputSizes
    obtain ⟨writes, hwrites, houtputs⟩ :=
      made.resolveAll_length hregion haccounts.outputs haccounts.outputSizes
    exact ⟨reads, writes, hreads, hwrites, hinputs, houtputs⟩
  case registered => exact fun position node step kernel => made.operation_of_kernel
  case called =>
    intro position step kernel hstep hrole hbuffers haction inputs outputs
    obtain ⟨node, -, haccounts⟩ := made.accounts_of_nodeBuffers? hbuffers
    exact made.runStep_kernel hregion haccounts hrole rfl haction inputs outputs

/-- Transients on two slots lie apart: each lies in the region of its slot. -/
theorem apart_slots (made : Made graph registry a plan before network after) {slot' : Nat}
    {region' : DeviceBuffer} (hne : slot ≠ slot') (hregion : network.pool.region? slot = some region)
    (hregion' : network.pool.region? slot' = some region') {id' : BufferId} (hid : id ∈ a.transientIds)
    (hid' : id' ∈ a.transientIds) :
    (network.pool.placeOf slot a id).Apart (network.pool.placeOf slot' a id') := by
  have horderly := made.plans.follows.orderly
  obtain ⟨start, finish, hspans⟩ := (Assignment.mem_transientIds_iff horderly).mp hid
  obtain ⟨start', finish', hspans'⟩ := (Assignment.mem_transientIds_iff horderly).mp hid'
  intro x hx hx'
  exact made.apart_regions hne hregion hregion' x ((made.placeOf_spans hregion hspans).has hx)
    ((made.placeOf_spans hregion' hspans').has hx')

end Made

variable {graph : Graph} {registry : Registry} {config : PlanConfig} {site after : Site HostDevice}
  {network : Network}

/-- However the regions of a compiled network are lent, every held lease resolves each buffer to a place of its own
memory, and the transients of two held leases lie apart. -/
theorem lease_addresses (hreachable : site.device.Reachable)
    (hcompile : compile graph registry config site = (.ok network, after)) :
    ∃ a, Assignment.ofGraph graph registry = .ok a ∧
      network.pool.lending = (Desk.opened network.pool.size).lending ∧
      ∀ sections, (∀ slot ∈ ((Desk.opened network.pool.size).run sections).leased,
          Addressed graph registry a network after.device slot) ∧
        ((Desk.opened network.pool.size).run sections).leased.Pairwise fun slot slot' =>
          ∀ id ∈ a.transientIds, ∀ id' ∈ a.transientIds,
            (network.pool.placeOf slot a id).Apart (network.pool.placeOf slot' a id') := by
  obtain ⟨a, plan, made⟩ := compile_eq_ok hreachable.sound hcompile
  refine ⟨a, made.plans.assigned, made.lending, ?_⟩
  intro sections
  have hopened : (Desk.opened network.pool.size).slots = List.range network.pool.size :=
    List.append_nil _
  have hslots : ((Desk.opened network.pool.size).run sections).slots.Perm (List.range network.pool.size) := by
    rw [← hopened]
    exact Desk.slots_run _ sections
  have hregion : ∀ slot ∈ ((Desk.opened network.pool.size).run sections).leased,
      ∃ region, network.pool.region? slot = some region := by
    intro slot hslot
    have hlt : slot < network.pool.size :=
      List.mem_range.mp (hslots.mem_iff.mp (List.mem_append_right _ hslot))
    exact ⟨_, List.getElem?_eq_getElem hlt⟩
  constructor
  · intro slot hslot
    obtain ⟨region, hfound⟩ := hregion slot hslot
    exact made.addressed hfound
  · refine (Desk.exclusive hslots).2.1.imp_of_mem ?_
    intro slot slot' hslot hslot' hne id hid id' hid'
    obtain ⟨region, hfound⟩ := hregion slot hslot
    obtain ⟨region', hfound'⟩ := hregion slot' hslot'
    exact made.apart_slots hne hfound hfound' hid hid'

/-- Two callers hold leases of the doublings; both find `x`, four bytes at different places. -/
theorem lease_addresses_doublings :
    ∃ network after a, compile .doublings .doubling {} sampleSite = (.ok network, after) ∧
      network.pool.resolve 0 ⟨0⟩ = .ok (network.pool.placeOf 0 a ⟨0⟩).address ∧
      network.pool.resolve 1 ⟨0⟩ = .ok (network.pool.placeOf 1 a ⟨0⟩).address ∧
      (network.pool.placeOf 0 a ⟨0⟩).size = 4 ∧
      (network.pool.placeOf 0 a ⟨0⟩).Apart (network.pool.placeOf 1 a ⟨0⟩) := by
  obtain ⟨network, after, hcompile, hsize, -⟩ := compile_doublings
  obtain ⟨a, hassigned, -, hall⟩ := lease_addresses (.fresh ..) hcompile
  have hx : ((Assignment.ofGraph .doublings .doubling).toOption.bind fun a => a.buffer? ⟨0⟩) =
      some ⟨⟨0⟩, 4, .transient 0 1⟩ := by
    decide +kernel
  rw [hassigned] at hx
  have hbuffer : a.buffer? ⟨0⟩ = some ⟨⟨0⟩, 4, .transient 0 1⟩ := hx
  have hknown : (a.buffer? ⟨0⟩).isSome := Option.isSome_of_eq_some hbuffer
  have hlisted : ⟨0⟩ ∈ a.transientIds :=
    (Assignment.mem_transientIds_iff (Assignment.ofGraph_follows hassigned).orderly).mpr
      ⟨0, 1, _, hbuffer, rfl⟩
  have hleased : ((Desk.opened network.pool.size).run [.arrive false, .tryAcquire]).leased = [0, 1] := by
    rw [hsize]
    decide
  obtain ⟨haddressed, hapart⟩ := hall [.arrive false, .tryAcquire]
  rw [hleased] at haddressed hapart
  refine ⟨network, after, a, hcompile, ((haddressed 0 (by simp)).resolved ⟨0⟩ hknown).1,
    ((haddressed 1 (by simp)).resolved ⟨0⟩ hknown).1, RegionPool.size_placeOf hbuffer, ?_⟩
  exact List.rel_of_pairwise_cons hapart (List.mem_singleton_self _) ⟨0⟩ hlisted ⟨0⟩ hlisted

end Network
end MemoryPlan
