import MemoryPlan.Pool
import MemoryPlan.Proofs.Constant
import MemoryPlan.Proofs.Device.Host
/-!
# Memory of a pool

The block of constants and the regions are allocated one after the other. When all of them could be made,
the device has gained exactly these allocations, every constant stands in the block, and no other byte has
changed.
-/

namespace MemoryPlan

namespace DeviceBuffer

variable {site after : Site HostDevice} {buffer : DeviceBuffer}

/-- Where the buffer lies. -/
def place (buffer : DeviceBuffer) : TensorPlace := ⟨buffer.address, buffer.size⟩

/-- A new buffer is a new allocation of its size. -/
theorem create_eq_ok (hs : site.device.Sound) {size : Nat} (h : create size site = (.ok buffer, after)) :
    HostDevice.Grown site.device after.device [buffer.place] ∧ buffer.size = size := by
  unfold create at h
  split at h
  · cases h
  · obtain ⟨address, between, hallocate, h⟩ := Act.bind_eq_ok.mp h
    obtain ⟨_, noted, hnote, h⟩ := Act.bind_eq_ok.mp h
    obtain ⟨rfl, rfl⟩ := Act.pure_eq_ok.mp h
    have hdevice : noted.device = between.device := by
      cases hnote
      rfl
    have hbetween : site.device.allocate size = .ok (address, between.device) := by
      unfold Act.call at hallocate
      cases hop : site.device.allocate size with
      | error fault =>
        simp only [Device.allocate, hop, HostDevice.settle] at hallocate
        cases hallocate
      | ok made =>
        simp only [Device.allocate, hop, HostDevice.settle] at hallocate
        cases hallocate
        rfl
    obtain ⟨hsound, hextents, hbehind, hmemory⟩ := hs.allocate hbetween
    refine ⟨⟨?_, ?_, ?_⟩, rfl⟩
    · rw [hdevice]
      exact hsound
    · rw [hdevice]
      exact hextents
    · intro place hplace x hx
      rw [hdevice]
      apply hmemory
      exact (hbehind place hplace).lt_start hx

/-- A range that a buffer does not refuse lies in it. -/
theorem covers_of_checkRange {offset length : Nat} (h : buffer.checkRange offset length = .ok ()) :
    buffer.place.Covers (buffer.address + offset) length := by
  unfold checkRange at h
  split at h
  · next stop hstop =>
    split at h
    · next hle =>
      obtain ⟨-, rfl⟩ := Word.add?_eq_some.mp hstop
      refine ⟨Nat.le_add_right _ _, ?_⟩
      change buffer.address + offset + length ≤ buffer.address + buffer.size
      simp only [Address] at *
      omega
    · cases h
  · cases h

/-- A write into a buffer changes its range of the memory. -/
theorem copyIn_eq_ok (hs : site.device.Sound) (hplace : buffer.place ∈ site.device.extents) {offset : Nat}
    {data : Bytes} (h : buffer.copyIn offset data site = (.ok (), after)) :
    after.device.memory = site.device.memory.write (buffer.address + offset) data ∧
      after.device.Alike site.device := by
  obtain ⟨_, between, hcheck, h⟩ := Act.bind_eq_ok.mp h
  obtain ⟨hrange, rfl⟩ := Act.ofExcept_eq_ok.mp hcheck
  obtain ⟨written, hop, hmemory, halike⟩ := hs.copyIn_eq hplace (covers_of_checkRange hrange)
  unfold Act.call at h
  simp only [Device.copyIn, hop, Except.map, HostDevice.settle] at h
  obtain ⟨-, rfl⟩ := Prod.mk.inj h
  exact ⟨hmemory, halike⟩

end DeviceBuffer

namespace ConstantBlock

variable {site after : Site HostDevice} {block : ConstantBlock} {set : ConstantSet}

/-- Where the block lies, if it has memory. -/
def places (block : ConstantBlock) : List TensorPlace := block.buffer.toList.map DeviceBuffer.place

/-- Uploading constants writes one after the other at their offsets. -/
theorem uploadAll_eq_ok {buffer : DeviceBuffer} {layout : Layout} {constants : List Constant}
    (hoffsets : ∀ c ∈ constants, layout.offset? c.id = some c.offset) (hs : site.device.Sound)
    (hplace : buffer.place ∈ site.device.extents)
    (h : uploadAll buffer layout constants site = (.ok (), after)) :
    after.device.memory = ConstantSet.written buffer.address constants site.device.memory ∧
      after.device.Alike site.device := by
  induction constants generalizing site with
  | nil =>
    obtain ⟨-, rfl⟩ := Act.pure_eq_ok.mp h
    exact ⟨rfl, .refl _⟩
  | cons c rest ih =>
    obtain ⟨hoffset, hrestOffsets⟩ := List.forall_mem_cons.mp hoffsets
    unfold uploadAll at h
    split at h
    · next hempty =>
      obtain ⟨hmemory, halike⟩ := ih hrestOffsets hs hplace h
      refine ⟨?_, halike⟩
      rw [hmemory]
      change _ = ConstantSet.written _ rest (site.device.memory.write _ c.data)
      rw [List.isEmpty_iff.mp hempty, Memory.write_nil]
    · rw [hoffset] at h
      obtain ⟨_, between, hwrite, h⟩ := Act.bind_eq_ok.mp h
      obtain ⟨hmemory, halike⟩ := DeviceBuffer.copyIn_eq_ok hs hplace (Act.mapError_eq_ok.mp hwrite)
      have hplace' : buffer.place ∈ between.device.extents := by
        rw [halike.1]
        exact hplace
      obtain ⟨hrest, halike'⟩ := ih hrestOffsets (halike.sound hs) hplace' h
      refine ⟨?_, halike'.trans halike⟩
      rw [hrest, hmemory]
      rfl

/-- What the upload of a set of constants leaves on the device. -/
structure Uploaded (set : ConstantSet) (before : HostDevice) (block : ConstantBlock) (after : HostDevice) :
    Prop where
  /-- The block is the only new allocation. -/
  grown : HostDevice.Grown before after block.places
  /-- The block has the offsets of the set. -/
  layout : block.layout = set.layout
  /-- There is memory for the block unless it has no bytes. -/
  buffer : ∀ c ∈ set.constants, 0 < c.data.length →
    ∃ buffer, block.buffer = some buffer ∧ buffer.place.Covers (block.base + c.offset) c.data.length
  /-- Each constant stands in the block. -/
  bytes : ∀ c ∈ set.constants, after.memory.bytes (block.base + c.offset) c.data.length = c.data

/-- A block that is uploaded holds the data of its constants, each at its offset. -/
theorem upload_eq_ok (hp : set.Packed) (hs : site.device.Sound)
    (h : upload set site = (.ok block, after)) : Uploaded set site.device block after.device := by
  unfold upload at h
  split at h
  · next hzero =>
    obtain ⟨_, between, hnote, h⟩ := Act.bind_eq_ok.mp h
    obtain ⟨rfl, rfl⟩ := Act.pure_eq_ok.mp h
    have hempty : ∀ c ∈ set.constants, c.data.length = 0 := by
      intro c hc
      have hinside : c.offset + c.data.length ≤ set.size := hp.inside c hc
      omega
    cases hnote
    refine ⟨.refl hs, rfl, ?_, ?_⟩
    · intro c hc hpos
      exact absurd (hempty c hc) (by omega)
    · intro c hc
      rw [List.eq_nil_of_length_eq_zero (hempty c hc)]
      rfl
  · obtain ⟨buffer, made, hcreate, h⟩ := Act.bind_eq_ok.mp h
    obtain ⟨_, filled, hfill, h⟩ := Act.bind_eq_ok.mp h
    obtain ⟨_, noted, hnote, h⟩ := Act.bind_eq_ok.mp h
    obtain ⟨rfl, rfl⟩ := Act.pure_eq_ok.mp h
    obtain ⟨hgrown, hsize⟩ := DeviceBuffer.create_eq_ok hs (Act.mapError_eq_ok.mp hcreate)
    have hplace : buffer.place ∈ made.device.extents := by
      rw [hgrown.extents]
      exact List.mem_append_right _ (List.mem_singleton_self _)
    have hupload := Act.orUndo_eq_ok.mp hfill
    obtain ⟨hmemory, halike⟩ := uploadAll_eq_ok hp.offset?_eq_some hgrown.sound hplace hupload
    have hnoted : noted.device = filled.device := by
      cases hnote
      rfl
    rw [hnoted]
    refine ⟨⟨halike.sound hgrown.sound, halike.1.trans hgrown.extents, ?_⟩, rfl, ?_, ?_⟩
    · intro place hold x hx
      rw [hmemory, ← hgrown.memory place hold x hx]
      apply ConstantSet.written_before
      intro c _
      have hlt : x < buffer.place.start := hgrown.lt_start hold (List.mem_singleton_self _) hx
      exact Nat.lt_of_lt_of_le hlt (Nat.le_add_right _ _)
    · intro c hc hpos
      have hinside : c.offset + c.data.length ≤ set.size := hp.inside c hc
      refine ⟨buffer, rfl, Nat.le_add_right _ _, ?_⟩
      change buffer.address + c.offset + c.data.length ≤ buffer.address + buffer.size
      simp only [Address] at *
      omega
    · intro c hc
      rw [hmemory]
      exact ConstantSet.bytes_written _ hp.ordered hc

end ConstantBlock

namespace RegionPool

variable {site after : Site HostDevice} {pool : RegionPool} {regions made : List DeviceBuffer}

/-- Where the block and the regions lie. -/
def places (pool : RegionPool) : List TensorPlace :=
  pool.constants.places ++ pool.regions.map DeviceBuffer.place

section Count

variable {δ : Type} [Device δ] {site after : Site δ}

/-- As many regions are made as were asked for. -/
theorem createRegions_length {size count : Nat}
    (h : createRegions size count made site = (.ok regions, after)) :
    regions.length = made.length + count := by
  induction count generalizing made site with
  | zero =>
    obtain ⟨rfl, -⟩ := Act.pure_eq_ok.mp h
    exact List.length_reverse
  | succ more ih =>
    obtain ⟨region, between, -, h⟩ := Act.bind_eq_ok.mp h
    rw [ih h, List.length_cons, Nat.add_assoc, Nat.add_comm 1]

/-- Allocating regions is making them, with a report beside it. -/
theorem allocateRegions_eq_ok {count : Nat} {layout : Layout}
    (h : allocateRegions count layout site = (.ok regions, after)) :
    createRegions layout.size count [] site = (.ok regions, after) := by
  unfold allocateRegions at h
  split at h
  · cases h
  · split at h
    · cases h
    · exact Act.mapError_eq_ok.mp h

/-- All regions of a new pool are free. -/
theorem create_lending {count : Nat} {block : ConstantBlock} {layout : Layout}
    (h : create count block layout site = (.ok pool, after)) : pool.lending = .ofCount pool.size := by
  unfold create at h
  obtain ⟨regions, between, hallocate, h⟩ := Act.bind_eq_ok.mp h
  obtain ⟨_, noted, -, h⟩ := Act.bind_eq_ok.mp h
  obtain ⟨rfl, -⟩ := Act.pure_eq_ok.mp h
  have hlength := createRegions_length (allocateRegions_eq_ok (Act.orUndo_eq_ok.mp hallocate))
  rw [List.length_nil, Nat.zero_add] at hlength
  exact congrArg Lending.ofCount hlength.symm

end Count

/-- New regions are new allocations of their size, beside those made already. -/
theorem createRegions_eq_ok {size count : Nat} (hs : site.device.Sound)
    (h : createRegions size count made site = (.ok regions, after)) :
    ∃ fresh, regions = made.reverse ++ fresh ∧ (∀ r ∈ fresh, r.size = size) ∧
      HostDevice.Grown site.device after.device (fresh.map DeviceBuffer.place) := by
  induction count generalizing made site with
  | zero =>
    obtain ⟨rfl, rfl⟩ := Act.pure_eq_ok.mp h
    exact ⟨[], (List.append_nil _).symm, by simp, .refl hs⟩
  | succ more ih =>
    obtain ⟨region, between, hcreate, h⟩ := Act.bind_eq_ok.mp h
    obtain ⟨hgrown, hsize⟩ := DeviceBuffer.create_eq_ok hs (Act.orUndo_eq_ok.mp hcreate)
    obtain ⟨fresh, hregions, hsizes, hrest⟩ := ih hgrown.sound h
    refine ⟨region :: fresh, ?_, ?_, hgrown.trans hrest⟩
    · rw [hregions, List.reverse_cons, List.append_assoc]
      rfl
    · exact List.forall_mem_cons.mpr ⟨hsize, hsizes⟩

/-- The regions of a new pool are new allocations of the size that the layout needs. -/
theorem create_eq_ok {count : Nat} {block : ConstantBlock} {layout : Layout} (hs : site.device.Sound)
    (h : create count block layout site = (.ok pool, after)) :
    pool.constants = block ∧ pool.layout = layout ∧
      (∀ r ∈ pool.regions, r.size = layout.size) ∧
      HostDevice.Grown site.device after.device (pool.regions.map DeviceBuffer.place) := by
  unfold create at h
  obtain ⟨regions, between, hallocate, h⟩ := Act.bind_eq_ok.mp h
  obtain ⟨_, noted, hnote, h⟩ := Act.bind_eq_ok.mp h
  obtain ⟨rfl, rfl⟩ := Act.pure_eq_ok.mp h
  have hdevice : noted.device = between.device := by
    cases hnote
    rfl
  obtain ⟨fresh, rfl, hsizes, hgrown⟩ :=
    createRegions_eq_ok hs (allocateRegions_eq_ok (Act.orUndo_eq_ok.mp hallocate))
  rw [hdevice]
  exact ⟨rfl, rfl, hsizes, hgrown⟩

end RegionPool
end MemoryPlan
