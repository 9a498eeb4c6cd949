import MemoryPlan.Proofs.Network.Simulation
/-!
# Serving requests

Between the requests of a network its device goes on: other requests run, other memory is allocated, freed
and written (`Network.Later`). The memory of the network and its constants stay (`Network.Retained`), so that
every request on every region yields what the graph means, whatever the region held before.
-/

namespace MemoryPlan

/-- A caller that finds a free region and nobody before it gets the first free one. -/
theorem Lending.acquire_eq {lending : Lending} {slot : Nat} {rest : List Nat}
    (hwaiting : lending.waiting = []) (hfree : lending.free = slot :: rest) :
    (∃ taken, lending.acquire = (.inl slot, taken)) ∧
      ∃ taken, lending.acquireOrLeave = (some slot, taken) := by
  unfold acquire acquireOrLeave enqueue claim?
  simp [hwaiting, hfree]

namespace Network

/-- The devices that a compiled network may find: everything may happen to the device but a free of the
network's own memory and a write into its block of constants. -/
inductive Later (network : Network) (compiled : HostDevice) : HostDevice → Prop where
  /-- Nothing happened yet. -/
  | compiled : Later network compiled compiled
  /-- A request ran on a region, with whatever outcome. -/
  | request {now : HostDevice} {slot : Nat} {inputs : Inputs} {journal : Journal}
      (h : Later network compiled now) (hslot : slot < network.pool.size)
      (hinputs : network.checkInputs inputs = .ok ()) :
      Later network compiled ((network.program slot inputs).run (δ := HostDevice) ⟨now, journal⟩).2.device
  /-- Somebody else uses some bytes. -/
  | withReserved {now : HostDevice} (h : Later network compiled now) (bytes : Nat) :
      Later network compiled (now.withReserved bytes)
  /-- An allocation was made. -/
  | allocate {now after : HostDevice} {size address : Nat} (h : Later network compiled now)
      (hop : now.allocate size = .ok (address, after)) : Later network compiled after
  /-- An allocation of somebody else was taken back. -/
  | free {now after : HostDevice} {address : Nat} (h : Later network compiled now)
      (hother : ∀ p ∈ network.pool.places, p.start ≠ address) (hop : now.free address = .ok after) :
      Later network compiled after
  /-- Bytes were written, also into a region, but not into the block. -/
  | copyIn {now after : HostDevice} {address : Nat} {data : Bytes} (h : Later network compiled now)
      (hout : ∀ p ∈ network.pool.constants.places, p.Apart ⟨address, data.length⟩)
      (hop : now.copyIn address data = .ok after) : Later network compiled after

/-- The memory of a compiled network is still there, and its block holds what it held. -/
structure Retained (network : Network) (compiled now : HostDevice) : Prop where
  /-- The device is sound. -/
  sound : now.Sound
  /-- The block and the regions are live. -/
  places : ∀ p ∈ network.pool.places, p ∈ now.extents
  /-- No byte of the block has changed. -/
  block : ∀ p ∈ network.pool.constants.places, ∀ x, p.Has x → now.memory x = compiled.memory x

variable {graph : Graph} {registry : Registry} {config : PlanConfig} {a : Assignment} {plan : NetworkPlan}
  {before after now : HostDevice} {network : Network} {slot : Nat} {region : DeviceBuffer} {inputs : Inputs}
  {meaning : Node → List Bytes → Except (Halt PlanError) (List Bytes)}

namespace Retained

/-- Another device with the same live allocations and the same block. -/
theorem of_alike (h : network.Retained after now) {next : HostDevice} (halike : next.Alike now)
    (hblock : ∀ p ∈ network.pool.constants.places, ∀ x, p.Has x → next.memory x = now.memory x) :
    network.Retained after next := by
  refine ⟨halike.sound h.sound, ?_, ?_⟩
  · rw [halike.1]
    exact h.places
  · intro p hp x hx
    rw [hblock p hp x hx]
    exact h.block p hp x hx

/-- What a request on a slot may touch is live. -/
theorem held (h : network.Retained after now) (hregion : network.pool.region? slot = some region) :
    TensorPlace.Held (network.pool.constants.places ++ [region.place]) now.extents ∧
      TensorPlace.Held [region.place] now.extents := by
  have hown : region.place ∈ now.extents := by
    apply h.places
    exact List.mem_append_right _ (List.mem_map_of_mem (List.mem_of_getElem? hregion))
  have hall : ∀ p ∈ network.pool.constants.places ++ [region.place], p ∈ now.extents := by
    intro p hp
    rcases List.mem_append.mp hp with hp | hp
    · exact h.places p (List.mem_append_left _ hp)
    · rw [List.mem_singleton.mp hp]
      exact hown
  exact ⟨.of_subset hall, .of_subset (List.forall_mem_singleton.mpr hown)⟩

/-- A program that is confined to the block and a region runs as it evaluates: no access fails. -/
theorem run_eq {α : Type} {program : Program α} (h : network.Retained after now)
    (hregion : network.pool.region? slot = some region)
    (hwithin : program.Within (network.pool.constants.places ++ [region.place]) [region.place])
    (journal : Journal) :
    (program.run (δ := HostDevice) ⟨now, journal⟩).1 = (program.evaluate now.memory).1 ∧
      (program.run (δ := HostDevice) ⟨now, journal⟩).2.device.memory = (program.evaluate now.memory).2 ∧
      (program.run (δ := HostDevice) ⟨now, journal⟩).2.device.Alike now := by
  have hheld := h.held hregion
  exact hwithin.run_eq h.sound hheld.1 hheld.2

/-- A request keeps the block. -/
theorem request (h : network.Retained after now) (made : Made graph registry a plan before network after)
    (hslot : slot < network.pool.size) (hconfines : registry.Confines graph)
    (hinputs : network.checkInputs inputs = .ok ()) (journal : Journal) :
    network.Retained after ((network.program slot inputs).run (δ := HostDevice) ⟨now, journal⟩).2.device := by
  have hregion : network.pool.region? slot = some network.pool.regions[slot] := List.getElem?_eq_getElem hslot
  have hwithin := made.program_within hregion hconfines hinputs
  have hrun := h.run_eq hregion hwithin journal
  refine h.of_alike hrun.2.2 ?_
  intro p hp x hx
  rw [hrun.2.1]
  apply hwithin.evaluate_outside
  intro q hq
  rw [List.mem_singleton.mp hq]
  exact made.apart_block hp hregion x hx

/-- An allocation keeps what is live. -/
theorem allocate (h : network.Retained after now) {next : HostDevice} {size address : Nat}
    (hop : now.allocate size = .ok (address, next)) : network.Retained after next := by
  have hmade := h.sound.allocate hop
  refine ⟨hmade.1, ?_, ?_⟩
  · intro p hp
    rw [hmade.2.1]
    exact List.mem_append_left _ (h.places p hp)
  · intro p hp x hx
    have hlive := h.places p (List.mem_append_left _ hp)
    have hbefore : x < address := (hmade.2.2.1 p hlive).lt_start hx
    rw [hmade.2.2.2 x hbefore]
    exact h.block p hp x hx

/-- A free of another allocation keeps the memory of the network. -/
theorem free (h : network.Retained after now) {next : HostDevice} {address : Nat}
    (hother : ∀ p ∈ network.pool.places, p.start ≠ address) (hop : now.free address = .ok next) :
    network.Retained after next := by
  have hfreed := h.sound.free hop
  have hplaces : ∀ p ∈ network.pool.places, p ∈ next.extents := fun p hp =>
    hfreed.2.1 p (h.places p hp) (hother p hp)
  refine ⟨hfreed.1, hplaces, ?_⟩
  intro p hp x hx
  rw [hfreed.2.2 p (hplaces p (List.mem_append_left _ hp)) x hx]
  exact h.block p hp x hx

/-- A write outside the block keeps the block. -/
theorem copyIn (h : network.Retained after now) {next : HostDevice} {address : Nat} {data : Bytes}
    (hout : ∀ p ∈ network.pool.constants.places, p.Apart ⟨address, data.length⟩)
    (hop : now.copyIn address data = .ok next) : network.Retained after next := by
  refine h.of_alike (HostDevice.extents_copyIn hop) ?_
  intro p hp x hx
  rw [h.sound.memory_copyIn hop]
  apply Memory.write_outside
  have hnot : ¬(address ≤ x ∧ x < address + data.length) := hout p hp x hx
  omega

end Retained

/-- Right after compilation the memory of the network is there. -/
theorem Made.retained (made : Made graph registry a plan before network after) :
    network.Retained after after := by
  refine ⟨made.grown.sound, ?_, fun _ _ _ _ => rfl⟩
  intro p hp
  rw [made.grown.extents]
  exact List.mem_append_right _ hp

/-- Whatever happened in between, the memory of the network is still there. -/
theorem Later.retained (h : network.Later after now) (made : Made graph registry a plan before network after)
    (hconfines : registry.Confines graph) : network.Retained after now := by
  induction h with
  | compiled => exact made.retained
  | request h hslot hinputs ih => exact ih.request made hslot hconfines hinputs _
  | withReserved h bytes ih => exact ih.of_alike ⟨rfl, rfl⟩ fun _ _ _ _ => rfl
  | allocate h hop ih => exact ih.allocate hop
  | free h hother hop ih => exact ih.free hother hop
  | copyIn h hout hop ih => exact ih.copyIn hout hop

/-- A request on any region yields what the graph means. -/
theorem Retained.outcome_eq (h : network.Retained after now)
    (made : Made graph registry a plan before network after) (hperforms : registry.Performs graph meaning)
    (hslot : slot < network.pool.size) (hinputs : network.checkInputs inputs = .ok ()) (journal : Journal) :
    ((network.program slot inputs).run (δ := HostDevice) ⟨now, journal⟩).1 =
      graph.interpret meaning inputs := by
  have hregion : network.pool.region? slot = some network.pool.regions[slot] := List.getElem?_eq_getElem hslot
  have hrun := h.run_eq hregion (made.program_within hregion hperforms.confines hinputs) journal
  rw [hrun.1]
  exact made.program_agrees hregion hperforms hinputs h.block

/-- Which regions are free does not matter to the program of a request. -/
theorem program_withLending (network : Network) (lending : Lending) (slot : Nat) (inputs : Inputs) :
    (network.withLending lending).program slot inputs = network.program slot inputs := by
  have hsteps : ∀ items outputs, (network.withLending lending).runSteps slot inputs outputs items =
      network.runSteps slot inputs outputs items := by
    intro items
    induction items with
    | nil => exact fun _ => rfl
    | cons item rest ih =>
      intro outputs
      unfold runSteps
      simp only [ih]
      rfl
  unfold program
  rw [hsteps]
  rfl

/-- A request that is served on a slot ends as its program does there. -/
theorem serve_fst {site : Site HostDevice} {outcome : Except (Halt PlanError) Outputs}
    (hrun : ∀ journal,
      ((network.program slot inputs).run (δ := HostDevice) ⟨site.device, journal⟩).1 = outcome)
    (lending : Lending) : (network.serve lending slot inputs site).1 = outcome :=
  hrun _

/-- A caller that finds a free region and nobody before it is served on the first free one. -/
theorem infer_fst {site : Site HostDevice} {outcome : Except (Halt PlanError) Outputs} {lending : Lending}
    {rest : List Nat} (hinputs : network.checkInputs inputs = .ok ()) (hwaiting : lending.waiting = [])
    (hfree : lending.free = slot :: rest)
    (hrun : ∀ journal,
      ((network.program slot inputs).run (δ := HostDevice) ⟨site.device, journal⟩).1 = outcome) :
    ((network.withLending lending).infer inputs site).1 = .finished outcome ∧
      ∀ ms, ((network.withLending lending).inferWithin inputs ms site).1 = outcome.map some := by
  obtain ⟨⟨taken, htaken⟩, left, hleft⟩ := Lending.acquire_eq hwaiting hfree
  have hinputs' : (network.withLending lending).checkInputs inputs = .ok () := hinputs
  have hserve : ∀ l, ((network.withLending lending).serve l slot inputs site).1 = outcome := by
    intro l
    apply serve_fst
    rw [program_withLending]
    exact hrun
  constructor
  · unfold infer
    rw [hinputs']
    dsimp only
    rw [show (network.withLending lending).pool.lending.acquire = _ from htaken]
    exact congrArg Served.finished (hserve taken)
  · intro ms
    unfold inferWithin
    rw [hinputs']
    dsimp only
    rw [show (network.withLending lending).pool.lending.acquireOrLeave = _ from hleft]
    exact congrArg (Except.map some) (hserve left)

/-- A request on a lease ends as its program does on the slot, and leaves the device as the program does. -/
theorem execute_eq {δ : Type} [Device δ] {site : Site δ} (hinputs : network.checkInputs inputs = .ok ()) :
    network.execute true slot inputs site = (network.program slot inputs).run site := by
  unfold execute
  rw [if_pos rfl, hinputs]
  rfl

/-- Reuse of memory cannot be observed: on a device that was compiled for, whatever happened to it since,
every request with accepted inputs yields on every region what the graph means, with every tensor in storage
of its own, be it run on a lease, by a caller that waits or by one that gives up after a time. -/
theorem request_eq_interpret {site after now : Site HostDevice} (hreachable : site.device.Reachable)
    (hperforms : registry.Performs graph meaning)
    (hcompile : compile graph registry config site = (.ok network, after))
    (hlater : network.Later after.device now.device) (hinputs : network.checkInputs inputs = .ok ()) :
    (∀ slot < network.pool.size, (network.execute true slot inputs now).1 = graph.interpret meaning inputs ∧
      ∀ lending, (network.serve lending slot inputs now).1 = graph.interpret meaning inputs) ∧
    ∀ lending : Lending, (∀ slot ∈ lending.free, slot < network.pool.size) → lending.waiting = [] →
      lending.free ≠ [] →
        ((network.withLending lending).infer inputs now).1 = .finished (graph.interpret meaning inputs) ∧
        ∀ ms, ((network.withLending lending).inferWithin inputs ms now).1 =
          (graph.interpret meaning inputs).map some := by
  obtain ⟨a, plan, made⟩ := compile_eq_ok hreachable.sound hcompile
  have hretained := hlater.retained made hperforms.confines
  have hrun : ∀ slot < network.pool.size, ∀ journal,
      ((network.program slot inputs).run (δ := HostDevice) ⟨now.device, journal⟩).1 =
        graph.interpret meaning inputs :=
    fun slot hslot journal => hretained.outcome_eq made hperforms hslot hinputs journal
  constructor
  · intro slot hslot
    constructor
    · rw [execute_eq hinputs]
      exact hrun slot hslot now.journal
    · exact serve_fst (hrun slot hslot)
  · intro lending hslots hwaiting hsome
    obtain ⟨slot, rest, hfree⟩ := List.exists_cons_of_ne_nil hsome
    have hslot : slot < network.pool.size := by
      apply hslots
      rw [hfree]
      exact List.mem_cons_self ..
    exact infer_fst hinputs hwaiting hfree (hrun slot hslot)

end Network

/-- Three doublings one after the other; the four tensors share two ranges of a region. -/
def Graph.doublings : Graph where
  name := "doublings"
  tensors := (List.range 4).map fun i => ⟨⟨i⟩, [.fixed 4], .u8⟩
  nodes :=
    [⟨"x", .parameter, [], [⟨0⟩]⟩, ⟨"a", .compute "Double", [⟨0⟩], [⟨1⟩]⟩,
      ⟨"b", .compute "Double", [⟨1⟩], [⟨2⟩]⟩, ⟨"c", .compute "Double", [⟨2⟩], [⟨3⟩]⟩,
      ⟨"y", .result, [⟨3⟩], []⟩]

namespace Registry

/-- The registry that knows doubling. -/
def doubling : Registry := structural.register "Double" (.ofKernel SampleKernel.double.kernel)

/-- What doubling means. -/
def doubled (_ : Node) (inputs : List Bytes) : Except (Halt PlanError) (List Bytes) :=
  .ok (inputs.map fun data => data.map (· * 2))

/-- The kernel of the doublings doubles. -/
theorem doubling_performs : doubling.Performs .doublings doubled := by
  constructor
  · intro typeName hmem
    simp only [List.mem_cons, List.not_mem_nil, or_false] at hmem
    rcases hmem with rfl | rfl | rfl | rfl <;> rfl
  · intro node hnode typeName hkind buffers operation hcreate
    have hname : typeName = "Double" ∧ node.inputs.map Graph.doublings.bytesOf = [4] ∧
        node.outputs.map Graph.doublings.bytesOf = [4] := by
      simp only [Graph.doublings, List.mem_cons, List.not_mem_nil, or_false] at hnode
      rcases hnode with rfl | rfl | rfl | rfl | rfl <;> cases hkind <;> exact ⟨rfl, rfl, rfl⟩
    obtain ⟨rfl, hin, hout⟩ := hname
    unfold create at hcreate
    rw [hkind] at hcreate
    obtain rfl := Except.ok.inj hcreate
    rw [hin, hout]
    exact ⟨rfl, _, rfl, SampleKernel.double_computes 4⟩

end Registry

namespace Network

/-- A device with 65536 bytes. -/
def sampleSite : Site HostDevice := ⟨{ total := 65536 }, {}⟩

/-- The plan of the doublings. -/
def doublingsPlan : NetworkPlan :=
  (NetworkPlan.make .doublings .doubling {} 0 "host-simulated").result.toOption.get (by decide +kernel)

theorem layout_doublingsPlan : doublingsPlan.transients.layout =
    ⟨260, [(⟨0⟩, 0), (⟨1⟩, 256), (⟨2⟩, 0), (⟨3⟩, 256)]⟩ := by
  unfold TransientSet.layout
  rw [TransientSet.placements_eq (by decide +kernel)]
  decide +kernel

theorem make_doublings :
    (NetworkPlan.make .doublings .doubling {} 0 "host-simulated").result = .ok doublingsPlan :=
  Except.eq_ok_get _

/-- The doublings can be compiled, for eight requests at once. -/
theorem compile_doublings :
    ∃ network after, compile .doublings .doubling {} sampleSite = (.ok network, after) ∧
      network.pool.size = 8 ∧ network.parameters = [⟨"x", 0, ⟨0⟩, 4⟩] := by
  have hmake : (NetworkPlan.make .doublings .doubling {} (Device.ordinal sampleSite.device)
      (Device.label sampleSite.device)).result = .ok doublingsPlan := make_doublings
  have hcompile : ((compile .doublings .doubling {} sampleSite).1.toOption.map fun network =>
      (network.pool.size, network.parameters)) = some (8, [⟨"x", 0, ⟨0⟩, 4⟩]) := by
    unfold compile within build
    simp only [Act.bind_apply, Act.device, Act.ofNoted, Act.log]
    rw [hmake]
    simp only [Act.ofExcept, Act.value, budgetOf]
    rw [layout_doublingsPlan]
    decide +kernel
  obtain ⟨network, hnetwork, hshape⟩ := Option.map_eq_some_iff.mp hcompile
  have hsome : (compile .doublings .doubling {} sampleSite).1.toOption.isSome := by
    rw [hnetwork]
    rfl
  have hok := Except.eq_ok_get hsome
  rw [Option.get_of_eq_some hsome hnetwork] at hok
  obtain ⟨hsize, hparameters⟩ := Prod.mk.inj hshape
  exact ⟨network, _, Prod.ext hok rfl, hsize, hparameters⟩

/-- The doublings accept four bytes. -/
theorem checkInputs_doublings {network : Network} (hparameters : network.parameters = [⟨"x", 0, ⟨0⟩, 4⟩])
    {data : Bytes} (hdata : data.length = 4) : network.checkInputs [("x", data)] = .ok () := by
  have hknown : network.checkKnown [("x", data)] = .ok () := by
    unfold checkKnown
    rw [hparameters]
    rfl
  have hbound : network.parameters.forM (checkBound [("x", data)]) = .ok () := by
    rw [hparameters]
    exact Except.forM_eq_ok.mpr (List.forall_mem_singleton.mpr (if_pos hdata))
  unfold checkInputs
  rw [hknown]
  exact hbound

/-- A request after another one on the same region; both overwrite the same bytes. -/
theorem request_eq_interpret_doublings :
    ∃ network after, compile .doublings .doubling {} sampleSite = (.ok network, after) ∧
      (network.execute true 0 [("x", [1, 2, 3, 4])]
        (network.execute true 0 [("x", [5, 6, 7, 8])] after).2).1 = .ok [("y", [8, 16, 24, 32])] := by
  obtain ⟨network, after, hcompile, hsize, hparameters⟩ := compile_doublings
  have hslot : 0 < network.pool.size := by omega
  have hfirst : network.Later after.device
      (network.execute true 0 [("x", [5, 6, 7, 8])] after).2.device := by
    rw [execute_eq (checkInputs_doublings hparameters rfl)]
    exact .request .compiled hslot (checkInputs_doublings hparameters rfl)
  refine ⟨network, after, hcompile, ?_⟩
  have hinputs : network.checkInputs [("x", [1, 2, 3, 4])] = .ok () := checkInputs_doublings hparameters rfl
  have hall := request_eq_interpret (HostDevice.Reachable.fresh _ _ _ _ _) Registry.doubling_performs hcompile
    hfirst hinputs
  rw [(hall.1 0 hslot).1]
  rfl

end Network
end MemoryPlan
