import MemoryPlan.Proofs.Budget
import MemoryPlan.Proofs.Gained
import MemoryPlan.Proofs.Network.Cleanup
/-!
# All or nothing

On a host device everything that can fail is settled before memory is allocated: the budget grants no more
regions than fit into the free bytes beside the block. A compilation therefore either fails and leaves the
device as it was, or gains exactly the block and the regions, and releasing the network takes them back.
-/

namespace MemoryPlan

namespace Network

open HostDevice

variable {graph : Graph} {registry : Registry} {config : PlanConfig} {site : Site HostDevice}

/-- The graph can be planned for the device, and the budget grants regions. -/
def Plannable (graph : Graph) (registry : Registry) (config : PlanConfig) (device : HostDevice) : Prop :=
  ∃ plan streams, (NetworkPlan.make graph registry config device.ordinal device.label).result = .ok plan ∧
    (budgetOf plan device.freeBytes device.streamLimit).streams config.streams = .ok streams

/-- What is settled on a host device before memory is allocated. -/
structure Settled (config : PlanConfig) (device : HostDevice) (prepared : Prepared) : Prop where
  /-- The constants are packed. -/
  packed : prepared.plan.constants.Packed
  /-- The budget grants the number of regions. -/
  grants : (budgetOf prepared.plan device.freeBytes device.streamLimit).Grants config.streams prepared.streams

/-- The plan or the budget fails. -/
def Unplanned (graph : Graph) (registry : Registry) (config : PlanConfig) (device : HostDevice)
    (cause : PlanError) : Prop :=
  (NetworkPlan.make graph registry config device.ordinal device.label).result = .error cause ∨
  ∃ plan, (NetworkPlan.make graph registry config device.ordinal device.label).result = .ok plan ∧
    (budgetOf plan device.freeBytes device.streamLimit).streams config.streams = .error cause

/-- Planning leaves the device as it is, and yields what the plan and the budget yield. -/
theorem prepare_plans : (prepare graph registry config).Ensures
    (fun prepared after => after.device = site.device ∧
      (NetworkPlan.make graph registry config site.device.ordinal site.device.label).result = .ok prepared.plan ∧
      (budgetOf prepared.plan site.device.freeBytes site.device.streamLimit).streams config.streams =
        .ok prepared.streams)
    (fun halt after => after.device = site.device ∧
      ∃ cause, halt = .error cause ∧ Unplanned graph registry config site.device cause) site := by
  unfold prepare
  apply Act.ensures_bind
  apply Act.ensures_device
  apply Act.ensures_bind
  apply Act.ensures_ofNoted
  · intro plan journal hplan
    apply Act.ensures_bind
    apply Act.ensures_mapError
    have hinfo : (Act.query fun device : HostDevice => Device.memoryInfo device) { site with journal } =
        (.ok site.device.memoryInfo, { site with journal }) := rfl
    apply Act.ensures_of_ok hinfo
    apply Act.ensures_bind
    apply Act.ensures_ofNoted
    · intro streams journal hstreams
      apply Act.ensures_pure
      rw [Budget.result_notedStreams] at hstreams
      exact ⟨rfl, hplan, hstreams⟩
    · intro cause journal hrefused
      rw [Budget.result_notedStreams] at hrefused
      exact ⟨rfl, cause, rfl, Or.inr ⟨plan, hplan, hrefused⟩⟩
  · intro cause journal hrefused
    exact ⟨rfl, cause, rfl, Or.inl hrefused⟩

/-- Planning fails only without a plan or a budget. -/
theorem prepare_settles : (prepare graph registry config).Ensures
    (fun prepared after => after.device = site.device ∧ Settled config site.device prepared)
    (fun halt after => after.device = site.device ∧ (∃ cause, halt = .error cause) ∧
      ¬Plannable graph registry config site.device) site := by
  refine prepare_plans.mono ?_ ?_
  · rintro prepared after ⟨hdevice, hplan, hstreams⟩
    obtain ⟨a, hplans⟩ := NetworkPlan.make_eq_ok hplan
    have hlimit : 0 < max site.device.streamLimit 1 := Nat.le_max_right _ _
    exact ⟨hdevice, hplans.packed, Budget.streams_eq_ok hlimit hstreams⟩
  · rintro halt after ⟨hdevice, cause, rfl, hrefused | ⟨plan, hplan, hrefused⟩⟩
    · refine ⟨hdevice, ⟨cause, rfl⟩, ?_⟩
      rintro ⟨plan, streams, hplan, -⟩
      cases hplan.symm.trans hrefused
    · refine ⟨hdevice, ⟨cause, rfl⟩, ?_⟩
      rintro ⟨other, streams, hother, hstreams⟩
      obtain rfl := Except.ok.inj (hplan.symm.trans hother)
      cases hstreams.symm.trans hrefused

/-- What a network has gained on a host device. -/
structure Furnished (config : PlanConfig) (before : HostDevice) (network : Network) (after : HostDevice) :
    Prop where
  /-- A region has bytes. -/
  region : 0 < network.pool.layout.size
  /-- The number of regions is bounded by the device, by the request and by the free bytes. -/
  size_eq : network.pool.size = match config.streams.requested with
    | none => min (max before.streamLimit 1)
        ((before.freeBytes - network.pool.constants.size) / network.pool.layout.size)
    | some count => min (min (max before.streamLimit 1) count)
        ((before.freeBytes - network.pool.constants.size) / network.pool.layout.size)
  /-- There is at least one region. -/
  pos : 0 < network.pool.size
  /-- The block and the regions fit into the bytes that were free. -/
  fits : network.pool.constants.size + network.pool.size * network.pool.layout.size ≤ before.freeBytes
  /-- The block, unless it has no bytes, and the regions are live behind what was live before. -/
  live : ∃ made : List Allocation, after.live = before.live ++ made ∧
    made.map Allocation.size =
      (if 0 < network.pool.constants.size then [network.pool.constants.size] else []) ++
        List.replicate network.pool.size network.pool.layout.size
  /-- Their bytes are counted. -/
  liveBytes : after.stats.liveBytes = before.stats.liveBytes +
    (network.pool.constants.size + network.pool.size * network.pool.layout.size)
  /-- Releasing the network restores the live allocations with their bytes, and the count. -/
  restored : ∀ journal, (network.release ⟨after, journal⟩).device.live = before.live ∧
    (network.release ⟨after, journal⟩).device.stats.liveBytes = before.stats.liveBytes

/-- Where addresses may end after a compilation. -/
def reach (device : HostDevice) : Nat :=
  device.nextAddress + device.freeBytes + addressStep * (max device.streamLimit 1 + 1)

/-- The regions stay below the addresses that a compilation may reach. -/
theorem Settled.le_reach {device : HostDevice} {prepared : Prepared} (h : Settled config device prepared) :
    device.nextAddress + prepared.plan.constants.size + addressStep +
      prepared.streams * (prepared.plan.transients.layout.size + addressStep) ≤ reach device := by
  have hfits : prepared.plan.constants.size + prepared.streams * prepared.plan.transients.layout.size ≤
      device.freeBytes := h.grants.fits
  have hlimit : prepared.streams ≤ max device.streamLimit 1 := by
    have heq := h.grants.streams_eq
    change prepared.streams = match config.streams.requested with
      | none => min (max device.streamLimit 1) _
      | some count => min (min (max device.streamLimit 1) count) _ at heq
    rw [heq]
    split
    · exact Nat.min_le_left _ _
    · exact Nat.le_trans (Nat.min_le_left _ _) (Nat.min_le_left _ _)
  unfold reach addressStep
  rw [Nat.mul_add]
  simp only [Address] at *
  omega

/-- A network whose pool was gained as the budget says is furnished. -/
theorem Settled.furnished {before after : HostDevice} {prepared : Prepared} {network : Network}
    (h : Settled config before prepared)
    (hconstants : network.pool.constants.layout = prepared.plan.constants.layout)
    (hlayout : network.pool.layout = prepared.plan.transients.layout)
    (hblock : network.pool.constants.places.map TensorPlace.size =
      if 0 < prepared.plan.constants.size then [prepared.plan.constants.size] else [])
    (hregions : network.pool.regions.map DeviceBuffer.size =
      List.replicate prepared.streams prepared.plan.transients.layout.size)
    (hgained : Gained before after network.pool.places) : Furnished config before network after := by
  obtain ⟨-, hregion, hstreams, hpos, hfits⟩ := h
  have hc : network.pool.constants.size = prepared.plan.constants.size := congrArg Layout.size hconstants
  have ht : network.pool.layout.size = prepared.plan.transients.layout.size := congrArg Layout.size hlayout
  have hn : network.pool.size = prepared.streams := by
    have hlength := congrArg List.length hregions
    rw [List.length_map, List.length_replicate] at hlength
    exact hlength
  have hsizes : network.pool.places.map TensorPlace.size =
      (if 0 < network.pool.constants.size then [network.pool.constants.size] else []) ++
        List.replicate network.pool.size network.pool.layout.size := by
    rw [hc, ht, hn, ← hblock, ← hregions]
    unfold RegionPool.places
    rw [List.map_append, List.map_map]
    rfl
  have hbytes : bytesOf network.pool.places =
      network.pool.constants.size + network.pool.size * network.pool.layout.size := by
    unfold bytesOf
    rw [hsizes, List.sum_append, List.sum_replicate]
    split
    · rw [List.sum_singleton]
      rfl
    · next hzero =>
      rw [Nat.eq_zero_of_not_pos hzero]
      rfl
  refine ⟨?_, ?_, ?_, ?_, ?_, ?_, ?_⟩
  · rw [ht]
    exact hregion
  · rw [hc, ht, hn]
    exact hstreams
  · rw [hn]
    exact hpos
  · rw [hc, ht, hn]
    exact hfits
  · obtain ⟨made, hlive, hplaces⟩ := hgained.live
    refine ⟨made, hlive, ?_⟩
    rw [← hsizes, ← hplaces, List.map_map]
    rfl
  · rw [← hbytes]
    exact hgained.liveBytes
  · intro journal
    have hstart : Gained before (⟨after, journal⟩ : Site HostDevice).device network.pool.places := hgained
    have hend := RegionPool.release_gained hstart
    obtain ⟨none, hlive, hnone⟩ := hend.live
    rw [List.map_eq_nil_iff.mp hnone, List.append_nil] at hlive
    exact ⟨hlive, hend.liveBytes⟩

/-- After planning, all allocations succeed unless the addresses run out. -/
theorem furnish_gains {prepared : Prepared} (hs : site.device.Sound)
    (hsettled : Settled config site.device prepared) :
    (furnish graph config prepared).Ensures
      (fun network after => Furnished config site.device network after.device)
      (fun halt _ => Overflows (reach site.device) halt) site := by
  have hreach := hsettled.le_reach
  have hfits : prepared.plan.constants.size + prepared.streams * prepared.plan.transients.layout.size ≤
      site.device.freeBytes := hsettled.grants.fits
  unfold furnish
  apply Act.ensures_bind
  refine (ConstantBlock.upload_gains hsettled.packed (.refl hs) ?_).mono ?_ ?_
  · change 0 + prepared.plan.constants.size ≤ site.device.freeBytes
    omega
  · rintro block uploaded ⟨hlayout, hsizes, hblock, hnext⟩
    rw [List.nil_append] at hblock
    have hbytes : bytesOf block.places = prepared.plan.constants.size := by
      unfold bytesOf
      rw [hsizes]
      split
      · exact List.sum_singleton
      · next hzero => exact (Nat.eq_zero_of_not_pos hzero).symm
    apply Act.ensures_bind
    refine (RegionPool.create_gains hblock hsettled.grants.pos hsettled.grants.region ?_).mono ?_ ?_
    · rw [hbytes]
      exact hfits
    · rintro pool made ⟨rfl, hpool, hregions, hgained⟩
      apply Act.ensures_bind
      apply Act.ensures_note
      apply Act.ensures_pure
      exact hsettled.furnished hlayout hpool hsizes hregions hgained
    · intro halt after hover
      refine hover.mono (Nat.le_trans ?_ hreach)
      exact Nat.add_le_add_right hnext _
  · intro halt after hover
    exact hover.mono (Nat.le_trans (Nat.le_add_right _ _) hreach)

/-- A compilation leaves the device as it was, or furnishes a network, or runs out of addresses. -/
theorem compile_furnishes (graph : Graph) (registry : Registry) (config : PlanConfig)
    (hs : site.device.Sound) : (compile graph registry config).Ensures
      (fun network after => Furnished config site.device network after.device)
      (fun halt after => after.device = site.device ∧ (∃ cause, halt = .error cause) ∧
          ¬Plannable graph registry config site.device ∨
        Overflows (reach site.device) halt) site := by
  unfold compile
  apply ensures_within
  rw [build_eq]
  apply Act.ensures_bind
  refine prepare_settles.mono ?_ ?_
  · rintro prepared settled ⟨hdevice, hsettled⟩
    change settled.device = site.device at hdevice
    change Settled config site.device prepared at hsettled
    rw [← hdevice] at hs hsettled ⊢
    exact (furnish_gains hs hsettled).mono (fun _ _ hfurnished => hfurnished)
      fun _ _ hover => Or.inr hover
  · intro halt after hsame
    exact Or.inl hsame

/-- A compilation that fails makes no memory calls, unless it runs out of addresses. -/
theorem compile_calls (graph : Graph) (registry : Registry) (config : PlanConfig) (hs : site.device.Sound) :
    (compile graph registry config).Ensures (fun _ _ => True)
      (fun halt after => after.device.calls = [] ∨ Overflows (reach site.device) halt) site.watched := by
  unfold compile
  apply ensures_within
  rw [build_eq]
  apply Act.ensures_bind
  -- the first stage makes no memory calls, and the second one fails as on the device below
  refine (((prepare_mirrors graph registry config).ensures prepare_settles).and
    ((prepare_quiet graph registry config).ensures _)).mono ?_ ?_
  · rintro prepared settled ⟨⟨hdevice, hsettled⟩, -⟩
    change settled.plain.device = site.device at hdevice
    change Settled config site.device prepared at hsettled
    rw [← hdevice] at hs hsettled ⊢
    exact ((furnish_mirrors graph config prepared).ensures (furnish_gains hs hsettled)).mono
      (fun _ _ _ => trivial) fun _ _ hover => Or.inr hover
  · rintro halt after ⟨-, hcalls⟩
    exact Or.inl hcalls

/-- A compilation on a host device is all or nothing. If it fails, there is no plan or no budget, the device
is as it was and no memory was asked for. If it yields a network, the device gained the memory of the
network, as much as the budget grants, and releasing the network restores what was live. It does not end
otherwise as long as the addresses last. -/
theorem compile_all_or_nothing (graph : Graph) (registry : Registry) (config : PlanConfig)
    (site : Site HostDevice) (hreachable : site.device.Reachable) :
    (∀ cause after, compile graph registry config site = (.error (.error cause), after) →
      after.device = site.device ∧ (compile graph registry config site.watched).2.device.calls = [] ∧
        ¬Plannable graph registry config site.device) ∧
    (∀ network after, compile graph registry config site = (.ok network, after) →
      Furnished config site.device network after.device) ∧
    (site.device.nextAddress + site.device.freeBytes + addressStep * (max site.device.streamLimit 1 + 1) <
        Word.limit →
      ∀ reason after, compile graph registry config site ≠ (.error (.crash reason), after)) := by
  have hcompile := compile_furnishes graph registry config hreachable.sound
  refine ⟨?_, ?_, ?_⟩
  · intro cause after hfails
    have hmirrored := compile_mirrors graph registry config site.watched
    rw [Site.plain_watched, hfails] at hmirrored
    obtain ⟨houtcome, -⟩ := Prod.mk.inj hmirrored
    have hcalls := (compile_calls graph registry config hreachable.sound).of_error (Prod.ext houtcome rfl)
    obtain ⟨hsame, -, hplan⟩ | ⟨⟨reason, hcrash⟩, -⟩ := hcompile.of_error hfails
    · obtain hnone | ⟨⟨reason, hcrash⟩, -⟩ := hcalls
      · exact ⟨hsame, hnone, hplan⟩
      · cases hcrash
    · cases hcrash
  · intro network after hmade
    exact hcompile.of_ok hmade
  · intro hroom reason after hcrash
    obtain ⟨-, ⟨cause, herror⟩, -⟩ | ⟨-, hlimit⟩ := hcompile.of_error hcrash
    · cases herror
    · exact absurd hroom (Nat.not_lt.mpr hlimit)

/-- A device on which not even one region for the doublings fits. -/
def narrowSite : Site HostDevice := ⟨{ total := 100 }, {}⟩

/-- The doublings need more memory than a narrow device has. -/
theorem compile_doublings_narrow : ∃ after, compile .doublings .doubling {} narrowSite =
    (.error (.error (.insufficientMemory 100 0 260)), after) := by
  have hmake : (NetworkPlan.make .doublings .doubling {} (Device.ordinal narrowSite.device)
      (Device.label narrowSite.device)).result = .ok doublingsPlan := make_doublings
  unfold compile within build
  simp only [Act.bind_apply, Act.device, Act.ofNoted, Act.log]
  rw [hmake]
  simp only [Act.ofExcept, Act.value, budgetOf]
  rw [layout_doublingsPlan]
  exact ⟨_, rfl⟩

/-- Compiling the doublings gains eight regions on a large device and nothing on a narrow one. -/
theorem compile_all_or_nothing_doublings :
    (∃ network after, compile .doublings .doubling {} sampleSite = (.ok network, after) ∧
      network.pool.size = 8 ∧ Furnished {} sampleSite.device network after.device ∧
      (network.release after).device.live = []) ∧
    ∃ after, compile .doublings .doubling {} narrowSite =
        (.error (.error (.insufficientMemory 100 0 260)), after) ∧
      after.device = narrowSite.device ∧
      (compile .doublings .doubling {} narrowSite.watched).2.device.calls = [] ∧
      ¬Plannable .doublings .doubling {} narrowSite.device := by
  constructor
  · obtain ⟨network, after, hcompile, hsize, -⟩ := compile_doublings
    have hall := compile_all_or_nothing .doublings .doubling {} sampleSite (.fresh ..)
    have hfurnished := hall.2.1 network after hcompile
    exact ⟨network, after, hcompile, hsize, hfurnished, (hfurnished.restored after.journal).1⟩
  · obtain ⟨after, hafter⟩ := compile_doublings_narrow
    have hall := compile_all_or_nothing .doublings .doubling {} narrowSite (.fresh ..)
    exact ⟨after, hafter, hall.1 _ after hafter⟩

end Network
end MemoryPlan
