import MemoryPlan.Proofs.Network.Plan
/-!
# Addresses of buffers

Where the request on a slot finds the buffers of the assignment: constants in the shared block, transients
in the region of the slot. Buffers that are alive together lie apart, and so do the block and all regions.
-/

namespace MemoryPlan

namespace RegionPool

/-- The address of a buffer for the request on a slot; zero if there is none. -/
def addressOf (pool : RegionPool) (slot : Nat) (id : BufferId) : Nat :=
  match pool.resolve slot id with
  | .ok address => address
  | .error _ => 0

/-- Where the request on a slot finds a buffer of an assignment. -/
def placeOf (pool : RegionPool) (slot : Nat) (a : Assignment) (id : BufferId) : TensorPlace where
  address := pool.addressOf slot id
  size := ((a.buffer? id).map AssignedBuffer.size).getD 0

variable {pool : RegionPool} {slot : Nat} {a : Assignment} {id : BufferId}

/-- A buffer that resolves has this address. -/
theorem addressOf_eq {address : Nat} (h : pool.resolve slot id = .ok address) :
    pool.addressOf slot id = address := by
  unfold addressOf
  rw [h]

/-- The place of a buffer has the size of the buffer. -/
theorem size_placeOf {x : AssignedBuffer} (h : a.buffer? id = some x) :
    (pool.placeOf slot a id).size = x.size := by
  unfold placeOf
  dsimp only
  rw [h]
  rfl

end RegionPool

namespace Network.Made

variable {graph : Graph} {registry : Registry} {a : Assignment} {plan : NetworkPlan}
  {before after : HostDevice} {network : Network} {slot : Nat} {region : DeviceBuffer} {id other : BufferId}
  {data : Bytes} {start finish : Nat} {x : AssignedBuffer}

/-- The block and the regions lie one behind the other. -/
theorem apart (made : Made graph registry a plan before network after) :
    network.pool.places.Pairwise HostDevice.Precedes := by
  have hapart := made.grown.sound.apart
  rw [made.grown.extents, List.pairwise_append] at hapart
  exact hapart.2.1

/-- A constant is found in the block, with its data. -/
theorem resolve_keeps (made : Made graph registry a plan before network after) (hkeeps : a.Keeps id data)
    (slot : Nat) :
    ∃ address, network.pool.resolve slot id = .ok address ∧
      after.memory.bytes address data.length = data ∧
      (0 < data.length → ∃ p ∈ network.pool.constants.places, p.Covers address data.length) := by
  obtain ⟨c, hc, rfl, rfl⟩ := made.plans.constants hkeeps
  have hoffset : network.pool.constants.layout.offset? c.id = some c.offset := by
    rw [made.constants]
    exact made.plans.packed.offset?_eq_some_iff.mpr ⟨c, hc, rfl, rfl⟩
  refine ⟨network.pool.constants.base + c.offset, ?_, made.bytes c hc, made.covers c hc⟩
  unfold RegionPool.resolve ConstantBlock.address?
  rw [hoffset]
  rfl

/-- The block has no address for what is no constant of the assignment. -/
theorem address?_eq_none (made : Made graph registry a plan before network after)
    (hother : ∀ data, ¬a.Keeps id data) : network.pool.constants.address? id = none := by
  unfold ConstantBlock.address?
  rw [Option.map_eq_none_iff, made.constants]
  cases hoffset : plan.constants.layout.offset? id with
  | none => rfl
  | some offset =>
    obtain ⟨c, hc, rfl, -⟩ := made.plans.packed.offset?_eq_some_iff.mp hoffset
    exact absurd (made.plans.known c hc) (hother c.data)

/-- A transient is found in the region of the slot, at its offset. -/
theorem resolve_spans (made : Made graph registry a plan before network after)
    (hregion : network.pool.region? slot = some region) (hspans : a.Spans id start finish)
    (hx : a.buffer? id = some x) :
    ∃ offset, network.pool.layout.offset? id = some offset ∧
      network.pool.resolve slot id = .ok (region.address + offset) ∧ offset + x.size ≤ region.size := by
  have hmem := made.plans.transients hspans hx
  have hnone : network.pool.constants.address? id = none :=
    made.address?_eq_none fun _ hkeeps => hkeeps.not_spans hspans
  obtain ⟨offset, hoffset⟩ := Option.isSome_iff_exists.mp
    (made.plans.valid.isSome_offset?_iff.mpr ⟨_, hmem, rfl⟩)
  have hlayout : network.pool.layout.offset? id = some offset := by
    rw [made.layout]
    exact hoffset
  have hfits := (made.plans.valid.offset_fits hmem hoffset).2
  have hsize : region.size = plan.transients.layout.size := by
    rw [made.sizes region (List.mem_of_getElem? hregion), made.layout]
  refine ⟨offset, hlayout, ?_, ?_⟩
  · unfold RegionPool.resolve RegionPool.region
    rw [hnone, hlayout, hregion]
    rfl
  · rw [hsize]
    exact hfits

/-- Every buffer of the assignment is found. -/
theorem resolve_eq (made : Made graph registry a plan before network after)
    (hregion : network.pool.region? slot = some region) (hx : a.buffer? id = some x) :
    network.pool.resolve slot id = .ok (network.pool.placeOf slot a id).address := by
  cases hcontent : x.content with
  | constant data =>
    obtain ⟨address, hresolve, -⟩ := made.resolve_keeps ⟨x, hx, hcontent⟩ slot
    rw [hresolve]
    exact congrArg Except.ok (RegionPool.addressOf_eq hresolve).symm
  | transient start finish =>
    obtain ⟨offset, -, hresolve, -⟩ := made.resolve_spans hregion ⟨x, hx, hcontent⟩ hx
    rw [hresolve]
    exact congrArg Except.ok (RegionPool.addressOf_eq hresolve).symm

/-- The place of a constant lies in the block and holds the data. -/
theorem placeOf_keeps (made : Made graph registry a plan before network after) (hkeeps : a.Keeps id data)
    (slot : Nat) :
    (network.pool.placeOf slot a id).bytes after.memory = data ∧
      (network.pool.placeOf slot a id).size = data.length ∧
      TensorPlace.Held [network.pool.placeOf slot a id] network.pool.constants.places := by
  obtain ⟨address, hresolve, hbytes, hcovers⟩ := made.resolve_keeps hkeeps slot
  obtain ⟨x, hx, hcontent⟩ := hkeeps
  have hlength := made.plans.follows.orderly.filled hx hcontent
  have hplace : network.pool.placeOf slot a id = ⟨address, data.length⟩ := by
    unfold RegionPool.placeOf
    rw [RegionPool.addressOf_eq hresolve, hx, hlength]
    rfl
  rw [hplace]
  refine ⟨hbytes, rfl, ?_⟩
  intro p hp hpos
  rw [List.mem_singleton.mp hp] at hpos ⊢
  exact hcovers hpos

/-- The place of a transient lies in the region of the slot. -/
theorem placeOf_spans (made : Made graph registry a plan before network after)
    (hregion : network.pool.region? slot = some region) (hspans : a.Spans id start finish) :
    region.place.Covers (network.pool.placeOf slot a id).start (network.pool.placeOf slot a id).size := by
  obtain ⟨x, hx, hcontent⟩ := hspans
  obtain ⟨offset, -, hresolve, hfits⟩ := made.resolve_spans hregion ⟨x, hx, hcontent⟩ hx
  have hstart : (network.pool.placeOf slot a id).start = region.place.start + offset :=
    RegionPool.addressOf_eq hresolve
  have hstop : region.place.stop = region.place.start + region.size := rfl
  rw [hstart, RegionPool.size_placeOf hx]
  unfold TensorPlace.Covers
  omega

/-- Two transients that are alive together lie apart. -/
theorem apart_spans (made : Made graph registry a plan before network after)
    (hregion : network.pool.region? slot = some region) {start' finish' : Nat}
    (hspans : a.Spans id start finish) (hspans' : a.Spans other start' finish') (hne : id ≠ other)
    (hle : start ≤ finish') (hle' : start' ≤ finish) :
    (network.pool.placeOf slot a id).Apart (network.pool.placeOf slot a other) := by
  obtain ⟨x, hx, hcontent⟩ := hspans
  obtain ⟨y, hy, hcontent'⟩ := hspans'
  have hmem := made.plans.transients ⟨x, hx, hcontent⟩ hx
  have hmem' := made.plans.transients ⟨y, hy, hcontent'⟩ hy
  obtain ⟨i, hi, hresolve, -⟩ := made.resolve_spans hregion ⟨x, hx, hcontent⟩ hx
  obtain ⟨j, hj, hresolve', -⟩ := made.resolve_spans hregion ⟨y, hy, hcontent'⟩ hy
  rw [made.layout] at hi hj
  have hapart : i + x.size ≤ j ∨ j + y.size ≤ i :=
    made.plans.valid.offset_apart hmem hmem' hne hle hle' hi hj
  have hstart : (network.pool.placeOf slot a id).start = region.place.start + i :=
    RegionPool.addressOf_eq hresolve
  have hstart' : (network.pool.placeOf slot a other).start = region.place.start + j :=
    RegionPool.addressOf_eq hresolve'
  intro z hz hz'
  unfold TensorPlace.Has TensorPlace.stop at hz hz'
  rw [hstart, RegionPool.size_placeOf hx] at hz
  rw [hstart', RegionPool.size_placeOf hy] at hz'
  omega

/-- The block lies apart from every region. -/
theorem apart_block (made : Made graph registry a plan before network after) {p : TensorPlace}
    (hp : p ∈ network.pool.constants.places) (hregion : network.pool.region? slot = some region) :
    p.Apart region.place := by
  have hapart := made.apart
  unfold RegionPool.places at hapart
  rw [List.pairwise_append] at hapart
  have hmem : region.place ∈ network.pool.regions.map DeviceBuffer.place :=
    List.mem_map_of_mem (List.mem_of_getElem? hregion)
  exact (hapart.2.2 p hp _ hmem).apart

/-- Two regions lie apart. -/
theorem apart_regions (made : Made graph registry a plan before network after) {slot' : Nat}
    {region' : DeviceBuffer} (hne : slot ≠ slot') (hregion : network.pool.region? slot = some region)
    (hregion' : network.pool.region? slot' = some region') : region.place.Apart region'.place := by
  have hapart := made.apart
  unfold RegionPool.places at hapart
  rw [List.pairwise_append, List.pairwise_map] at hapart
  have hordered := List.pairwise_iff_getElem.mp hapart.2.1
  obtain ⟨hi, rfl⟩ := List.getElem?_eq_some_iff.mp hregion
  obtain ⟨hj, rfl⟩ := List.getElem?_eq_some_iff.mp hregion'
  rcases Nat.lt_or_gt_of_ne hne with hlt | hgt
  · exact (hordered slot slot' hi hj hlt).apart
  · exact (hordered slot' slot hj hi hgt).apart.symm

/-- A constant and a transient lie apart. -/
theorem apart_keeps (made : Made graph registry a plan before network after)
    (hregion : network.pool.region? slot = some region) (hkeeps : a.Keeps id data)
    (hspans : a.Spans other start finish) :
    (network.pool.placeOf slot a id).Apart (network.pool.placeOf slot a other) := by
  obtain ⟨-, -, hheld⟩ := made.placeOf_keeps hkeeps slot
  have hcovers := made.placeOf_spans hregion hspans
  intro z hz hz'
  obtain ⟨p, hp, hblock⟩ := hheld.has (List.mem_singleton_self _) hz
  exact made.apart_block hp hregion z hblock (hcovers.has hz')

end Network.Made
end MemoryPlan
