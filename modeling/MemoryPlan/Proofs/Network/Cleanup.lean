import MemoryPlan.Proofs.Network.Serving
import MemoryPlan.Proofs.Network.Watched
/-!
# Cleanup

Whatever calls a device lets fail, a compilation that fails gives back all memory that it was granted, each
piece once, and one that succeeds gives nothing back before its network is released. The account of the
memory calls is followed through each part: a part that fails leaves what was held before it, and a part that
succeeds adds the memory of what it made.
-/

namespace MemoryPlan

open MemoryCall

namespace Watched

variable {δ : Type} {start held : Multiset Address} {watched : Watched δ}

/-- That memory is held, given what was held at the start. -/
def Holds (start held : Multiset Address) (watched : Watched δ) : Prop :=
  account start watched.calls = some held

/-- That memory is held, and nothing was given back so far. -/
structure Intact (start held : Multiset Address) (watched : Watched δ) : Prop where
  /-- The account is balanced. -/
  holds : watched.Holds start held
  /-- Nothing was given back. -/
  kept : takenBack watched.calls = []

/-- What is held depends on the calls alone. -/
theorem Intact.of_calls (h : watched.Intact start held) {other : Watched δ}
    (hcalls : other.calls = watched.calls) : other.Intact start held := by
  obtain ⟨hholds, hkept⟩ := h
  refine ⟨?_, ?_⟩
  · unfold Holds at hholds ⊢
    rw [hcalls]
    exact hholds
  · rw [hcalls]
    exact hkept

/-- A call that takes nothing back keeps the account. -/
theorem Intact.call (h : watched.Intact start held) (call : MemoryCall) (hkeeps : call.takenBack? = none)
    {next : Multiset Address} (hsettle : settle held call = some next) {other : Watched δ}
    (hcalls : other.calls = watched.calls ++ [call]) : other.Intact start next := by
  obtain ⟨hholds, hkept⟩ := h
  refine ⟨?_, ?_⟩
  · unfold Holds
    rw [hcalls, account_append hholds]
    simp [account, hsettle]
  · rw [hcalls, takenBack, List.filterMap_append]
    exact List.append_eq_nil_iff.mpr ⟨hkept, by simp [hkeeps]⟩

variable [Device δ] {other : Watched δ} {size : Nat} {address : Address}

/-- Memory that the device grants is held. -/
theorem Intact.allocate_ok (h : watched.Intact start held)
    (hop : Device.allocate watched size = (.ok address, other)) :
    other.Intact start (address ::ₘ held) := by
  obtain ⟨houtcome, rfl⟩ := Prod.mk.inj hop
  refine h.call (.allocate size (some address)) rfl rfl ?_
  change watched.calls ++ [.allocate size (Device.allocate watched.device size).1.toOption] = _
  rw [show (Device.allocate watched.device size).1 = .ok address from houtcome]
  rfl

/-- Without a grant nothing new is held. -/
theorem Intact.allocate_error (h : watched.Intact start held) {halt : Halt DeviceFault}
    (hop : Device.allocate watched size = (.error halt, other)) : other.Intact start held := by
  obtain ⟨houtcome, rfl⟩ := Prod.mk.inj hop
  refine h.call (.allocate size none) rfl rfl ?_
  change watched.calls ++ [.allocate size (Device.allocate watched.device size).1.toOption] = _
  rw [show (Device.allocate watched.device size).1 = .error halt from houtcome]
  rfl

/-- Memory that is held can be given back, whatever the device answers. -/
theorem Holds.free (h : watched.Holds start (address ::ₘ held)) {outcome : Except DeviceFault Unit}
    (hop : Device.free watched address = (outcome, other)) : other.Holds start held := by
  obtain ⟨-, rfl⟩ := Prod.mk.inj hop
  unfold Holds
  change account start (watched.calls ++ [.free address]) = _
  rw [account_append h]
  simp [account, settle]

end Watched

variable {δ : Type} [Device δ] {start held : Multiset Address} {site : Site (Watched δ)}

omit [Device δ] in
/-- An act without memory calls keeps what is held, however it ends. -/
theorem Act.Quiet.keeps {ε α : Type} {act : Act (Watched δ) ε α} (hquiet : act.Quiet)
    (h : site.device.Intact start held) :
    act.Ensures (fun _ after => after.device.Intact start held)
      (fun _ after => after.device.Intact start held) site :=
  (hquiet.ensures site).mono (fun _ _ hcalls => h.of_calls hcalls) fun _ _ hcalls => h.of_calls hcalls

namespace DeviceBuffer

/-- A new buffer is held; without one nothing new is. -/
theorem create_keeps (h : site.device.Intact start held) (size : Nat) :
    (create size).Ensures (fun buffer after => after.device.Intact start (buffer.address ::ₘ held))
      (fun _ after => after.device.Intact start held) site := by
  unfold create
  split
  · exact Act.ensures_fail h
  · apply Act.ensures_bind
    apply Act.ensures_call
    · intro address device hop
      apply Act.ensures_bind
      apply Act.ensures_note
      exact Act.ensures_pure (h.allocate_ok hop)
    · intro halt device hop
      exact h.allocate_error hop

/-- A buffer that is held can be released. -/
theorem release_holds {buffer : DeviceBuffer} (h : site.device.Holds start (buffer.address ::ₘ held)) :
    (buffer.release site).device.Holds start held := by
  unfold release
  split
  · next hop => exact h.free hop
  · next hop => exact h.free hop

/-- The addresses of buffers. -/
def addresses (buffers : List DeviceBuffer) : List Address := buffers.map DeviceBuffer.address

/-- Buffers that are held can be released. -/
theorem releaseAll_holds {buffers : List DeviceBuffer}
    (h : site.device.Holds start (addresses buffers + held)) :
    (releaseAll buffers site).device.Holds start held := by
  induction buffers generalizing site with
  | nil =>
    change site.device.Holds start (([] : List Address) + held) at h
    rw [Multiset.coe_nil, zero_add] at h
    exact h
  | cons buffer rest ih =>
    change site.device.Holds start ((buffer.address :: addresses rest : List Address) + held) at h
    rw [← Multiset.cons_coe, Multiset.cons_add] at h
    exact ih (release_holds h)

end DeviceBuffer

namespace ConstantBlock

variable {block : ConstantBlock}

/-- The address of the block, if it has memory. -/
def addresses (block : ConstantBlock) : List Address := block.buffer.toList.map DeviceBuffer.address

/-- A block that is released is held no longer. -/
theorem release_holds (h : site.device.Holds start (block.addresses + held)) :
    (block.release site).device.Holds start held := by
  unfold addresses at h
  unfold release
  cases hbuffer : block.buffer with
  | none =>
    rw [hbuffer, Option.toList_none, List.map_nil, Multiset.coe_nil, zero_add] at h
    exact h
  | some buffer =>
    rw [hbuffer] at h
    exact DeviceBuffer.release_holds h

/-- A block that could be uploaded is held; a failed write gives the memory back. -/
theorem upload_keeps (h : site.device.Intact start held) (set : ConstantSet) :
    (upload set).Ensures (fun block after => after.device.Intact start (block.addresses + held))
      (fun _ after => after.device.Holds start held) site := by
  unfold upload
  split
  · apply Act.ensures_bind
    apply Act.ensures_note
    apply Act.ensures_pure
    change site.device.Intact start (([] : List Address) + held)
    rw [Multiset.coe_nil, zero_add]
    exact h
  · apply Act.ensures_bind
    apply Act.ensures_mapError
    refine (DeviceBuffer.create_keeps h set.size).mono ?_ fun _ _ hafter => hafter.holds
    intro buffer made hmade
    apply Act.ensures_bind
    apply Act.ensures_orUndo
    refine ((uploadAll_quiet buffer set.layout set.constants).keeps hmade).mono ?_ ?_
    · intro _ filled hfilled
      apply Act.ensures_bind
      apply Act.ensures_note
      exact Act.ensures_pure hfilled
    · intro _ failed hfailed
      exact DeviceBuffer.release_holds hfailed.holds

end ConstantBlock

namespace RegionPool

open DeviceBuffer (addresses)

/-- Regions that could all be made are held beside what was held; a failure gives back those made so far. -/
theorem createRegions_keeps {made : List DeviceBuffer} (size count : Nat)
    (h : site.device.Intact start (addresses made + held)) :
    (createRegions size count made).Ensures
      (fun regions after => after.device.Intact start (addresses regions + held))
      (fun _ after => after.device.Holds start held) site := by
  induction count generalizing made site with
  | zero =>
    apply Act.ensures_pure
    rw [addresses, List.map_reverse, Multiset.coe_reverse]
    exact h
  | succ more ih =>
    unfold createRegions
    apply Act.ensures_bind
    apply Act.ensures_orUndo
    refine (DeviceBuffer.create_keeps h size).mono ?_ ?_
    · intro region after hafter
      apply ih
      rw [← Multiset.cons_add] at hafter
      exact hafter
    · -- the regions made so far are the only memory beside what was held
      intro halt after hafter
      apply DeviceBuffer.releaseAll_holds
      rw [addresses, List.map_reverse, Multiset.coe_reverse]
      exact hafter.holds

/-- Regions that are made are held beside the rest, and a failure gives all of them back. -/
theorem allocateRegions_keeps (h : site.device.Intact start held) (count : Nat) (layout : Layout) :
    (allocateRegions count layout).Ensures
      (fun regions after => after.device.Intact start (addresses regions + held))
      (fun _ after => after.device.Holds start held) site := by
  unfold allocateRegions
  split
  · exact Act.ensures_fail h.holds
  · split
    · exact Act.ensures_fail h.holds
    · apply Act.ensures_mapError
      apply createRegions_keeps
      change site.device.Intact start (([] : List Address) + held)
      rw [Multiset.coe_nil, zero_add]
      exact h

/-- The addresses of the block and of the regions. -/
def addresses (pool : RegionPool) : List Address :=
  pool.constants.addresses ++ DeviceBuffer.addresses pool.regions

/-- A pool holds its block and its regions; a pool that could not be made gives the block back, too. -/
theorem create_keeps {block : ConstantBlock} (h : site.device.Intact start (block.addresses + held))
    (count : Nat) (layout : Layout) :
    (create count block layout).Ensures (fun pool after => after.device.Intact start (pool.addresses + held))
      (fun _ after => after.device.Holds start held) site := by
  unfold create
  apply Act.ensures_bind
  apply Act.ensures_orUndo
  refine (allocateRegions_keeps h count layout).mono ?_ ?_
  · intro regions after hafter
    apply Act.ensures_bind
    apply Act.ensures_note
    apply Act.ensures_pure
    change after.device.Intact start
      ((block.addresses ++ DeviceBuffer.addresses regions : List Address) + held)
    rw [← Multiset.coe_add, add_comm (block.addresses : Multiset Address), add_assoc]
    exact hafter
  · intro halt after hafter
    exact ConstantBlock.release_holds hafter

/-- A pool that is released is held no longer. -/
theorem release_holds {pool : RegionPool} (h : site.device.Holds start (pool.addresses + held)) :
    (pool.release site).device.Holds start held := by
  unfold addresses at h
  rw [← Multiset.coe_add, add_assoc] at h
  exact DeviceBuffer.releaseAll_holds (ConstantBlock.release_holds h)

end RegionPool

namespace Network

/-- A network holds the memory of its pool; without a network nothing new is held. -/
theorem furnish_keeps (h : site.device.Intact start held) (graph : Graph) (config : PlanConfig)
    (prepared : Prepared) :
    (furnish graph config prepared).Ensures
      (fun network after => after.device.Intact start (network.pool.addresses + held))
      (fun _ after => after.device.Holds start held) site := by
  apply Act.ensures_bind
  refine (ConstantBlock.upload_keeps h prepared.plan.constants).mono ?_ fun _ _ hafter => hafter
  intro block uploaded hblock
  apply Act.ensures_bind
  refine (RegionPool.create_keeps hblock prepared.streams prepared.plan.transients.layout).mono ?_
    fun _ _ hafter => hafter
  intro pool made hpool
  apply Act.ensures_bind
  apply Act.ensures_note
  exact Act.ensures_pure hpool

/-- A network that is built holds its pool, and a failure gives everything back. -/
theorem build_keeps (h : site.device.Intact start held) (graph : Graph) (registry : Registry)
    (config : PlanConfig) :
    (build graph registry config).Ensures
      (fun network after => after.device.Intact start (network.pool.addresses + held))
      (fun _ after => after.device.Holds start held) site := by
  rw [build_eq]
  apply Act.ensures_bind
  refine ((prepare_quiet graph registry config).keeps h).mono ?_ fun _ _ hafter => hafter.holds
  intro prepared settled hsettled
  exact furnish_keeps hsettled graph config prepared

/-- A network that is compiled holds its pool, and a failure gives everything back. -/
theorem compile_keeps (h : site.device.Intact start held) (graph : Graph) (registry : Registry)
    (config : PlanConfig) :
    (compile graph registry config).Ensures
      (fun network after => after.device.Intact start (network.pool.addresses + held))
      (fun _ after => after.device.Holds start held) site := by
  let entered : Site (Watched δ) := { site with journal := site.journal.push (.enter graph.name) }
  have hentered : entered.device.Intact start held := h
  apply ensures_within
  exact build_keeps hentered graph registry config

end Network

/-- The memory that was taken over or handed out during those calls was given back, each piece once. -/
structure FreedOnce (taken : List Address) (calls : List MemoryCall) : Prop where
  /-- Nothing is held in the end, and nothing was given back that was not held at that time. -/
  balanced : account taken calls = some 0
  /-- Each address was given back once, and no other address was, provided that they differ. -/
  once : (taken ++ handedOut calls).Nodup → ∀ address,
    (takenBack calls).count address = if address ∈ taken ++ handedOut calls then 1 else 0

/-- An account that ends with nothing held freed each address once. -/
theorem FreedOnce.of_account {taken : List Address} {calls : List MemoryCall}
    (h : account taken calls = some 0) : FreedOnce taken calls := by
  refine ⟨h, ?_⟩
  intro hdistinct address
  have hperm : (taken ++ handedOut calls).Perm (takenBack calls) := by
    have hall := account_eq_some h
    rw [add_zero, Multiset.coe_add] at hall
    exact Multiset.coe_eq_coe.mp hall
  rw [← hperm.count_eq]
  split
  · next hmem => exact List.count_eq_one_of_mem hdistinct hmem
  · next hmem => exact List.count_eq_zero_of_not_mem hmem

/-- An act that takes over some memory gives back all memory when it fails; what it makes holds the memory
until it is released, and then gives all of it back. -/
structure Tidy {α : Type} (taken : List Address) (act : Act (Watched δ) PlanError α)
    (below : Act δ PlanError α) (release : α → Site (Watched δ) → Site (Watched δ))
    (releaseBelow : α → Site δ → Site δ) : Prop where
  /-- Watching changes nothing about the act. -/
  mirrors : act.Mirrors below
  /-- Watching changes nothing about the release. -/
  releases : ∀ made site, (release made site).plain = releaseBelow made site.plain
  /-- An act that fails gives all memory back, each piece once. -/
  failed : ∀ (site : Site δ) halt after, act site.watched = (.error halt, after) →
    FreedOnce taken after.device.calls
  /-- An act that succeeds gives nothing back. -/
  kept : ∀ (site : Site δ) made after, act site.watched = (.ok made, after) →
    takenBack after.device.calls = []
  /-- Releasing what was made gives all memory back, each piece once. -/
  released : ∀ (site : Site δ) made after, act site.watched = (.ok made, after) →
    FreedOnce taken (release made after).device.calls

omit [Device δ] in
/-- An act is tidy if it keeps account of its memory, and what it makes can be released. -/
theorem Tidy.of_ensures {α : Type} {taken : List Address} {act : Act (Watched δ) PlanError α}
    {below : Act δ PlanError α} {release : α → Site (Watched δ) → Site (Watched δ)}
    {releaseBelow : α → Site δ → Site δ} {addresses : α → List Address} (hmirrors : act.Mirrors below)
    (hreleases : ∀ made site, (release made site).plain = releaseBelow made site.plain)
    (hkeeps : ∀ site : Site δ, act.Ensures
      (fun made after => after.device.Intact taken (addresses made + (0 : Multiset Address)))
      (fun _ after => after.device.Holds taken 0) site.watched)
    (hholds : ∀ made (site : Site (Watched δ)),
      site.device.Holds taken (addresses made + (0 : Multiset Address)) →
      (release made site).device.Holds taken 0) :
    Tidy taken act below release releaseBelow where
  mirrors := hmirrors
  releases := hreleases
  failed site _ _ hact := .of_account ((hkeeps site).of_error hact)
  kept site _ _ hact := ((hkeeps site).of_ok hact).kept
  released site made after hact := .of_account (hholds made after ((hkeeps site).of_ok hact).holds)

/-- On every device, whatever calls it lets fail, neither a compilation nor the upload of a block nor the
making of a pool leaks memory or gives any back twice; a pool takes the block over that it is given. -/
theorem memory_calls_tidy (δ : Type) [Device δ] :
    (∀ graph registry config, Tidy (δ := δ) [] (Network.compile graph registry config)
      (Network.compile graph registry config) Network.release Network.release) ∧
    (∀ set, Tidy (δ := δ) [] (ConstantBlock.upload set) (ConstantBlock.upload set) ConstantBlock.release
      ConstantBlock.release) ∧
    ∀ count block layout, Tidy (δ := δ) block.addresses (RegionPool.create count block layout)
      (RegionPool.create count block layout) RegionPool.release RegionPool.release := by
  have hempty : ∀ site : Site δ, site.watched.device.Intact ([] : List Address) 0 := fun _ => ⟨rfl, rfl⟩
  refine ⟨?_, ?_, ?_⟩
  · intro graph registry config
    exact .of_ensures (Network.compile_mirrors graph registry config)
      (fun network => network.pool.plain_release)
      (fun site => Network.compile_keeps (hempty site) graph registry config)
      (fun _ _ hholds => RegionPool.release_holds hholds)
  · intro set
    exact .of_ensures (ConstantBlock.upload_mirrors set) (fun block => block.plain_release)
      (fun site => ConstantBlock.upload_keeps (hempty site) set)
      (fun _ _ hholds => ConstantBlock.release_holds hholds)
  · intro count block layout
    have htaken : ∀ site : Site δ, site.watched.device.Intact block.addresses
        (block.addresses + (0 : Multiset Address)) := by
      intro site
      rw [add_zero]
      exact ⟨rfl, rfl⟩
    exact .of_ensures (RegionPool.create_mirrors count block layout) (fun pool => pool.plain_release)
      (fun site => RegionPool.create_keeps (htaken site) count layout)
      (fun _ _ hholds => RegionPool.release_holds hholds)

/-- A device that lets calls fail as a script says, and none when the script is over. -/
structure Scripted where
  /-- Whether the next calls succeed. -/
  script : List Bool
  /-- The next address. -/
  next : Address := 4096

namespace Scripted

/-- The next call yields that value or fails. -/
def answer {ε α : Type} (device : Scripted) (fault : ε) (value : α) : Except ε α × Scripted :=
  (if device.script.headD true then .ok value else .error fault, { device with script := device.script.tail })

/-- Moves the next address on. -/
def skip (device : Scripted) (size : Nat) : Scripted := { device with next := device.next + max size 1 }

instance : Device Scripted where
  ordinal _ := 0
  label _ := "host-simulated"
  streamLimit _ := 4
  memoryInfo device := device.answer .notFound ⟨65536, 65536⟩
  allocate device size := (device.skip size).answer (.error .notFound) device.next
  free device _ := (.ok (), device)
  copyIn device _ _ := device.answer (.error .notFound) ()
  copyOut device _ length := device.answer (.error .notFound) (List.replicate length 0)

end Scripted

/-- When the third region for the doublings is refused, the two others are given back. -/
theorem memory_calls_tidy_doublings :
    ∃ halt after, Network.compile .doublings .doubling {}
        (Site.watched ⟨{ script := [true, true, true, false] : Scripted }, {}⟩) = (.error halt, after) ∧
      after.device.calls = [.allocate 260 (some 4096), .allocate 260 (some 4356), .allocate 260 none,
        .free 4096, .free 4356] ∧
      ∀ address, (takenBack after.device.calls).count address =
        if address ∈ [] ++ handedOut after.device.calls then 1 else 0 := by
  let start : Site Scripted := ⟨{ script := [true, true, true, false] }, {}⟩
  have hmake : (NetworkPlan.make .doublings .doubling {} (Device.ordinal start.watched.device)
      (Device.label start.watched.device)).result = .ok Network.doublingsPlan := Network.make_doublings
  have hcompile : (Network.compile .doublings .doubling {} start.watched).1.toOption.isNone ∧
      (Network.compile .doublings .doubling {} start.watched).2.device.calls =
        [.allocate 260 (some 4096), .allocate 260 (some 4356), .allocate 260 none,
          .free 4096, .free 4356] := by
    unfold Network.compile Network.within Network.build
    simp only [Act.bind_apply, Act.device, Act.ofNoted, Act.log]
    rw [hmake]
    simp only [Act.ofExcept, Act.value, Network.budgetOf]
    rw [Network.layout_doublingsPlan]
    decide +kernel
  obtain ⟨hfails, hcalls⟩ := hcompile
  rcases hrun : Network.compile .doublings .doubling {} start.watched with ⟨halt | network, after⟩
  · rw [hrun] at hcalls
    have hfreed := ((memory_calls_tidy Scripted).1 .doublings .doubling {}).failed start halt after hrun
    refine ⟨halt, after, rfl, hcalls, hfreed.once ?_⟩
    rw [hcalls]
    decide
  · rw [hrun] at hfails
    cases hfails

end MemoryPlan
