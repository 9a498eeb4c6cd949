import MemoryPlan.Proofs.Network.Serving
import MemoryPlan.Proofs.Program.Race
/-!
# Concurrent requests

Requests on distinct slots that take turns on the device, one access at a time. Each is confined to the block
of constants, which none writes, and to its own region, which no other one touches: so each ends as it does
alone.
-/

namespace MemoryPlan

namespace Network

/-- All that a request on a lease does: it checks its inputs and runs. -/
def request (network : Network) (slot : Nat) (inputs : Inputs) : Program Outputs := do
  Program.ofExcept (network.checkInputs inputs)
  network.program slot inputs

/-- Requests on slots, about to take turns on a device. -/
def race (network : Network) (calls : List (Nat × Inputs)) (site : Site HostDevice) :
    Race HostDevice Outputs where
  site := site
  programs := calls.map fun call => network.request call.1 call.2

/-- The region that a call may use. -/
def room (network : Network) (calls : List (Nat × Inputs)) (i : Nat) : List TensorPlace :=
  ((calls[i]?).bind fun call => network.pool.region? call.1).toList.map DeviceBuffer.place

variable {graph : Graph} {registry : Registry} {config : PlanConfig} {a : Assignment} {plan : NetworkPlan}
  {before after now : HostDevice} {network : Network} {slot : Nat} {region : DeviceBuffer} {inputs : Inputs}
  {calls : List (Nat × Inputs)}

/-- To run a request alone is to execute it on a lease. -/
theorem run_request (network : Network) (slot : Nat) (inputs : Inputs) (site : Site HostDevice) :
    (network.request slot inputs).run site = network.execute true slot inputs site := by
  unfold request execute
  rw [Program.run_bind, if_pos rfl]
  cases network.checkInputs inputs <;> rfl

/-- A request is confined to the block of constants and the region of its slot, whatever its inputs. -/
theorem Made.request_within (made : Made graph registry a plan before network after)
    (hregion : network.pool.region? slot = some region) (hconfines : registry.Confines graph)
    (inputs : Inputs) :
    (network.request slot inputs).Within
      (network.pool.constants.places ++ [region.place]) [region.place] := by
  unfold request
  cases hinputs : network.checkInputs inputs with
  | error cause => trivial
  | ok _ => exact made.program_within hregion hconfines hinputs

/-- The room of a request is its region. -/
theorem room_eq {i : Nat} (hcall : calls[i]? = some (slot, inputs))
    (hregion : network.pool.region? slot = some region) : network.room calls i = [region.place] := by
  unfold room
  rw [hcall, Option.bind_some, hregion]
  rfl

/-- Requests on distinct slots do not get in each other's way. -/
theorem Made.separate (made : Made graph registry a plan before network after)
    (hconfines : registry.Confines graph) {site : Site HostDevice}
    (hretained : network.Retained after site.device) (hdistinct : (calls.map Prod.fst).Nodup)
    (hslots : ∀ call ∈ calls, call.1 < network.pool.size) :
    (network.race calls site).Separate (fun i => network.pool.constants.places ++ network.room calls i)
      (network.room calls) := by
  have hregion : ∀ i (h : i < calls.length), ∃ region, network.pool.region? calls[i].1 = some region ∧
      network.room calls i = [region.place] := by
    intro i h
    have hslot := hslots _ (List.getElem_mem h)
    have hfound : network.pool.region? calls[i].1 = some network.pool.regions[calls[i].1] :=
      List.getElem?_eq_getElem hslot
    exact ⟨_, hfound, room_eq (List.getElem?_eq_getElem h) hfound⟩
  have hlength : (network.race calls site).programs.length = calls.length := List.length_map ..
  refine ⟨hretained.sound, ?_, ?_, ?_⟩
  · intro i program hprogram
    obtain ⟨hlt, heq⟩ := List.getElem?_eq_some_iff.mp hprogram
    rw [hlength] at hlt
    obtain ⟨region, hfound, hroom⟩ := hregion i hlt
    have hown : program = network.request calls[i].1 calls[i].2 := by
      rw [← heq]
      exact List.getElem_map ..
    rw [hown, hroom]
    exact made.request_within hfound hconfines _
  · intro i hi
    rw [hlength] at hi
    obtain ⟨region, hfound, hroom⟩ := hregion i hi
    rw [hroom]
    exact hretained.held hfound
  · intro i hi j hj hne p hp q hq
    rw [hlength] at hi hj
    obtain ⟨own, hown, hroom⟩ := hregion i hi
    obtain ⟨other, hother, hroom'⟩ := hregion j hj
    have hwrite : p = own.place := by
      rw [hroom] at hp
      exact List.mem_singleton.mp hp
    have htouch : q ∈ network.pool.constants.places ∨ q = other.place := by
      rw [hroom', List.append_assoc, List.mem_append, List.mem_append, List.mem_singleton] at hq
      exact hq.imp_right or_self_iff.mp
    have hslot : calls[i].1 ≠ calls[j].1 := by
      intro heq
      have hsame : calls[i] = calls[j] :=
        List.inj_on_of_nodup_map hdistinct (List.getElem_mem hi) (List.getElem_mem hj) heq
      exact hne ((List.Nodup.of_map _ hdistinct).getElem_inj_iff.mp hsame)
    rw [hwrite]
    rcases htouch with hblock | rfl
    · exact (made.apart_block hblock hown).symm
    · exact made.apart_regions hslot hown hother

/-- A request ends the same on any two devices that the network may find with the same bytes in its region. -/
theorem Made.evaluate_request_eq (made : Made graph registry a plan before network after)
    (hregion : network.pool.region? slot = some region) (hconfines : registry.Confines graph)
    {other : HostDevice} (hnow : network.Retained after now) (hother : network.Retained after other)
    (hsame : region.place.bytes now.memory = region.place.bytes other.memory) (inputs : Inputs) :
    ((network.request slot inputs).evaluate now.memory).1 =
        ((network.request slot inputs).evaluate other.memory).1 ∧
      ∀ x, region.place.Has x → ((network.request slot inputs).evaluate now.memory).2 x =
        ((network.request slot inputs).evaluate other.memory).2 x := by
  have hagree : ∀ p ∈ network.pool.constants.places ++ [region.place], ∀ x, p.Has x →
      now.memory x = other.memory x := by
    intro p hp x hx
    rcases List.mem_append.mp hp with hp | hp
    · rw [hnow.block p hp x hx, hother.block p hp x hx]
    · rw [List.mem_singleton.mp hp] at hx
      exact TensorPlace.eq_of_bytes_eq hsame hx
  have hcongr := (made.request_within hregion hconfines inputs).evaluate_congr hagree
  refine ⟨hcongr.1, ?_⟩
  intro x hx
  exact hcongr.2 x (hagree _ (List.mem_append_right _ (List.mem_singleton_self _)) x hx)

/-- Concurrent requests do not interfere: whatever the order in which requests on distinct slots take their
turns, the block of constants stays as it is, a request that has had enough turns of its own has ended, and
one that has ended has the outcome, and leaves the bytes in its region, of the same request alone on a device
with the same bytes in that region. -/
theorem race_eq_alone {site after now : Site HostDevice} (hreachable : site.device.Reachable)
    (hconfines : registry.Confines graph)
    (hcompile : compile graph registry config site = (.ok network, after))
    (hlater : network.Later after.device now.device) (hdistinct : (calls.map Prod.fst).Nodup)
    (hslots : ∀ call ∈ calls, call.1 < network.pool.size) (schedule : List Nat) :
    (∀ p ∈ network.pool.constants.places,
      p.bytes ((network.race calls now).play schedule).site.device.memory = p.bytes now.device.memory) ∧
    ∀ i slot inputs region, calls[i]? = some (slot, inputs) → network.pool.region? slot = some region →
      ∃ rest, ((network.race calls now).play schedule).programs[i]? = some rest ∧
        ((network.request slot inputs).turns now.device.memory ≤ schedule.count i → rest.ended?.isSome) ∧
        ∀ outcome, rest.ended? = some outcome → ∀ alone : Site HostDevice,
          network.Later after.device alone.device →
          region.place.bytes alone.device.memory = region.place.bytes now.device.memory →
            outcome = (network.execute true slot inputs alone).1 ∧
            region.place.bytes ((network.race calls now).play schedule).site.device.memory =
              region.place.bytes (network.execute true slot inputs alone).2.device.memory := by
  obtain ⟨a, plan, made⟩ := compile_eq_ok hreachable.sound hcompile
  have hretained := hlater.retained made hconfines
  have hagrees := (made.separate hconfines hretained hdistinct hslots).play_agrees schedule
  constructor
  · intro p hp
    apply TensorPlace.bytes_congr
    intro x hx
    apply hagrees.outside
    intro i _ q hq hhas
    obtain ⟨region, hregion, rfl⟩ := List.mem_map.mp hq
    obtain ⟨call, -, hfound⟩ := Option.bind_eq_some_iff.mp (Option.mem_toList.mp hregion)
    exact made.apart_block hp hfound x hx hhas
  · intro i slot inputs region hcall hregion
    have hstart : (network.race calls now).programs[i]? = some (network.request slot inputs) := by
      unfold race
      rw [List.getElem?_map, hcall]
      rfl
    obtain ⟨rest, hrest, hcontinues⟩ := hagrees.programs i _ hstart
    refine ⟨rest, hrest, hcontinues.isSome_ended?, ?_⟩
    intro outcome hended alone hlone hsame
    have halone := hlone.retained made hconfines
    have hevaluate := made.evaluate_request_eq hregion hconfines hretained halone hsame.symm inputs
    have hrun := halone.run_eq hregion (made.request_within hregion hconfines inputs) alone.journal
    have hdone := hcontinues.of_ended hended
    have hroom : region.place ∈ network.room calls i := by
      rw [room_eq hcall hregion]
      exact List.mem_singleton_self _
    rw [← run_request]
    constructor
    · rw [hrun.1, ← hevaluate.1]
      exact hdone.1
    · rw [hrun.2.1]
      apply TensorPlace.bytes_congr
      intro x hx
      rw [← hevaluate.2 x hx]
      exact hdone.2 region.place (List.mem_append_right _ hroom) x hx

/-- Two requests that take turns; the first one ends as if it were alone. -/
theorem race_eq_alone_doublings :
    ∃ network after, compile .doublings .doubling {} sampleSite = (.ok network, after) ∧
      ∃ count rest, ((network.race [(0, [("x", [1, 2, 3, 4])]), (1, [("x", [5, 6, 7, 8])])] after).play
        (List.replicate count [1, 0]).flatten).programs[0]? = some rest ∧
          rest.ended? = some (network.execute true 0 [("x", [1, 2, 3, 4])] after).1 := by
  obtain ⟨network, after, hcompile, hsize, -⟩ := compile_doublings
  have hslots : ∀ call ∈ [(0, [("x", ([1, 2, 3, 4] : Bytes))]), (1, [("x", [5, 6, 7, 8])])],
      call.1 < network.pool.size := by
    rw [hsize]
    simp
  let count := (network.request 0 [("x", [1, 2, 3, 4])]).turns after.device.memory
  have hcount : ((List.replicate count [1, 0]).flatten).count 0 = count := by
    simp [List.count_flatten]
  have hall := (race_eq_alone (HostDevice.Reachable.fresh _ _ _ _ _) Registry.doubling_performs.confines
    hcompile .compiled (by simp) hslots (List.replicate count [1, 0]).flatten).2
  obtain ⟨region, hregion⟩ : ∃ region, network.pool.region? 0 = some region := by
    have hslot : 0 < network.pool.regions.length := hslots _ (List.mem_cons_self ..)
    exact ⟨_, List.getElem?_eq_getElem hslot⟩
  obtain ⟨rest, hrest, hturns, hended⟩ := hall 0 0 _ _ rfl hregion
  obtain ⟨outcome, houtcome⟩ := Option.isSome_iff_exists.mp (hturns hcount.ge)
  refine ⟨network, after, hcompile, count, rest, hrest, ?_⟩
  rw [houtcome, (hended outcome houtcome after .compiled rfl).1]

end Network
end MemoryPlan
