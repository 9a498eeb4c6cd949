import MemoryPlan.Proofs.Gained
/-!
# Stored constants

Constants are offered to a set one after the other, and a refused one leaves no trace. What the set accepted lies
packed in its order, and the block that is made of the set returns the data of each of its constants, for as long as
nobody writes there. A block without bytes takes no memory.
-/

namespace MemoryPlan

namespace ConstantSet

/-- The set after a constant was offered; a refused one leaves it as it was. -/
def offer (set : ConstantSet) (item : BufferId × Bytes) : ConstantSet :=
  match set.add item.1 item.2 with
  | .ok after => after
  | .error _ => set

/-- The set after several constants were offered, one after the other. -/
def offerAll (set : ConstantSet) (offered : List (BufferId × Bytes)) : ConstantSet := offered.foldl offer set

/-- Those of the offered constants that the set accepts, in order. -/
def accepted : ConstantSet → List (BufferId × Bytes) → List (BufferId × Bytes)
  | _, [] => []
  | set, item :: rest =>
    match set.add item.1 item.2 with
    | .ok after => item :: accepted after rest
    | .error _ => accepted set rest

/-- A set refuses a second constant of a buffer, and one that fits nowhere behind the others. -/
inductive Refuses (set : ConstantSet) (id : BufferId) (data : Bytes) : PlanError → Prop where
  /-- The buffer is known. -/
  | duplicate (h : ∃ c ∈ set.constants, c.id = id) :
      Refuses set id data (.invalidAllocation (.duplicateConstant id))
  /-- The constant would end beyond the words. -/
  | overflow (hnew : ∀ c ∈ set.constants, c.id ≠ id) (h : ∀ offset, ¬set.Fits data.length offset) :
      Refuses set id data (.invalidAllocation (.constantOverflow id data.length set.size))

variable {set after : ConstantSet} {id : BufferId} {data : Bytes} {cause : PlanError}

/-- A constant is refused for just these causes. -/
theorem add_eq_error : set.add id data = .error cause ↔ set.Refuses id data cause := by
  unfold add
  split
  · next hknown =>
    have hdup := any_id_iff.mp hknown
    constructor
    · intro h
      obtain rfl := Except.error.inj h
      exact .duplicate hdup
    · intro h
      cases h with
      | duplicate h => rfl
      | overflow hnew h =>
        obtain ⟨c, hc, hid⟩ := hdup
        exact absurd hid (hnew c hc)
  · next hfresh =>
    have hnew : ∀ c ∈ set.constants, c.id ≠ id := fun c hc hid => hfresh (any_id_iff.mpr ⟨c, hc, hid⟩)
    split
    · next hnone =>
      constructor
      · intro h
        obtain rfl := Except.error.inj h
        exact .overflow hnew (nextOffset?_eq_none.mp hnone)
      · intro h
        cases h with
        | duplicate h => exact absurd (any_id_iff.mpr h) hfresh
        | overflow hnew h => rfl
    · next offset hoffset =>
      constructor
      · intro h
        cases h
      · intro h
        cases h with
        | duplicate h => exact absurd (any_id_iff.mpr h) hfresh
        | overflow hnew h => exact absurd (nextOffset?_eq_some.mp hoffset).1 (h offset)

/-- An accepted constant is in the set afterwards. -/
theorem offer_of_ok (h : set.add id data = .ok after) : set.offer (id, data) = after := by
  unfold offer
  rw [h]

/-- A refused constant leaves no trace. -/
theorem offer_of_error (h : set.add id data = .error cause) : set.offer (id, data) = set := by
  unfold offer
  rw [h]

/-- After all offers the set is packed and holds what it held before and what it accepted, in order. -/
theorem Packed.offerAll (hp : set.Packed) (offered : List (BufferId × Bytes)) :
    (set.offerAll offered).Packed ∧ (set.offerAll offered).alignment = set.alignment ∧
      (set.offerAll offered).constants.map (fun c => (c.id, c.data)) =
        set.constants.map (fun c => (c.id, c.data)) ++ set.accepted offered := by
  induction offered generalizing set with
  | nil => exact ⟨hp, rfl, (List.append_nil _).symm⟩
  | cons item rest ih =>
    obtain ⟨id, data⟩ := item
    have hcons : set.offerAll ((id, data) :: rest) = (set.offer (id, data)).offerAll rest := rfl
    cases h : set.add id data with
    | ok after =>
      have haccepted : set.accepted ((id, data) :: rest) = (id, data) :: after.accepted rest := by
        rw [accepted, h]
      obtain ⟨hpacked, halignment, hheld⟩ := ih (hp.add h)
      obtain ⟨-, offset, -, rfl⟩ := add_eq_ok.mp h
      rw [hcons, offer_of_ok h, haccepted, hheld]
      refine ⟨hpacked, halignment, ?_⟩
      rw [List.map_append, List.append_assoc]
      rfl
    | error cause =>
      have haccepted : set.accepted ((id, data) :: rest) = set.accepted rest := by
        rw [accepted, h]
      rw [hcons, offer_of_error h, haccepted]
      exact ih hp

/-- A packed set has no bytes exactly if its constants have none. -/
theorem Packed.size_eq_zero_iff (hp : set.Packed) : set.size = 0 ↔ ∀ c ∈ set.constants, c.data = [] := by
  constructor
  · intro hzero c hc
    have hinside : c.offset + c.data.length ≤ set.size := hp.inside c hc
    exact List.eq_nil_of_length_eq_zero (by omega)
  · exact hp.tight

end ConstantSet

namespace ConstantBlock

variable {set : ConstantSet} {site after : Site HostDevice} {block : ConstantBlock}

/-- The block of a set on the device that making it left. -/
structure Stores (set : ConstantSet) (before : HostDevice) (block : ConstantBlock) (after : HostDevice) :
    Prop where
  /-- Every constant with bytes is read back from its address. -/
  returned : ∀ c ∈ set.constants, c.data ≠ [] →
    ∃ address, block.address? c.id = some address ∧ after.copyOut address c.data.length = .ok c.data
  /-- Exactly the buffers of the constants have addresses. -/
  unknown : ∀ id, block.address? id = none ↔ ∀ c ∈ set.constants, c.id ≠ id
  /-- What was live before is live and has its bytes; a new allocation is one of the size of the set, and there
  is none exactly if the constants have no bytes. -/
  gained : ∃ fresh, after.live = before.live ++ fresh ∧
    (fresh = [] ↔ ∀ c ∈ set.constants, c.data = []) ∧ ∀ a ∈ fresh, a.size = set.size
  /-- Without bytes the device is as before. -/
  unchanged : (∀ c ∈ set.constants, c.data = []) → after = before


/-- A set without bytes is uploaded without a call of the device. -/
theorem upload_of_empty (hzero : set.size = 0) (site : Site HostDevice) :
    ∃ after, upload set site = (.ok ⟨none, set.layout⟩, after) ∧ after.device = site.device := by
  unfold upload
  rw [if_pos hzero]
  exact ⟨_, rfl, rfl⟩

/-- A packed set that fits into the free bytes is uploaded, as long as the addresses last. -/
theorem upload_succeeds (hp : set.Packed) (hs : site.device.Sound) (hfree : set.size ≤ site.device.freeBytes)
    (hlast : 0 < set.size →
      site.device.nextAddress + set.size + HostDevice.addressStep < Word.limit) :
    ∃ block after, upload set site = (.ok block, after) := by
  rcases Nat.eq_zero_or_pos set.size with hzero | hpos
  · obtain ⟨after, hafter, -⟩ := upload_of_empty hzero site
    exact ⟨_, after, hafter⟩
  · have hgains := upload_gains hp (HostDevice.Gained.refl hs) (by simpa [HostDevice.bytesOf] using hfree)
    apply hgains.exists_ok
    rintro halt after ⟨-, hlimit⟩
    exact absurd (hlast hpos) (Nat.not_lt.mpr hlimit)

/-- A block stores what its set holds. -/
theorem upload_stores (hp : set.Packed) (hs : site.device.Sound) (hfree : set.size ≤ site.device.freeBytes)
    (h : upload set site = (.ok block, after)) : Stores set site.device block after.device := by
  have huploaded := upload_eq_ok hp hs h
  have hgains := upload_gains hp (HostDevice.Gained.refl hs) (by simpa [HostDevice.bytesOf] using hfree)
  obtain ⟨-, hsizes, hgained, -⟩ := hgains.of_ok h
  constructor
  case returned =>
    intro c hc hdata
    have hpos : 0 < c.data.length := List.length_pos_iff.mpr hdata
    have hoffset : block.layout.offset? c.id = some c.offset := by
      rw [huploaded.layout]
      exact hp.offset?_eq_some_iff.mpr ⟨c, hc, rfl, rfl⟩
    obtain ⟨buffer, hbuffer, hcovers⟩ := huploaded.buffer c hc hpos
    have hlive : buffer.place ∈ after.device.extents := by
      rw [huploaded.grown.extents]
      apply List.mem_append_right
      unfold places
      rw [hbuffer]
      exact List.mem_singleton_self _
    refine ⟨block.base + c.offset, ?_, ?_⟩
    · unfold address?
      rw [hoffset]
      rfl
    · rw [huploaded.grown.sound.copyOut_eq hlive hcovers, huploaded.bytes c hc]
  case unknown =>
    intro id
    unfold address?
    rw [Option.map_eq_none_iff, huploaded.layout]
    constructor
    · intro hnone c hc hid
      rw [hp.offset?_eq_some_iff.mpr ⟨c, hc, hid, rfl⟩] at hnone
      cases hnone
    · intro hnew
      cases hoffset : set.layout.offset? id with
      | none => rfl
      | some offset =>
        obtain ⟨c, hc, hid, -⟩ := hp.offset?_eq_some_iff.mp hoffset
        exact absurd hid (hnew c hc)
  case gained =>
    obtain ⟨fresh, hfresh, hplaces⟩ := hgained.live
    have hall : fresh.map Allocation.size = if 0 < set.size then [set.size] else [] := by
      rw [← hsizes, ← List.nil_append block.places, ← hplaces, List.map_map]
      rfl
    refine ⟨fresh, hfresh, ?_, ?_⟩
    · rw [← hp.size_eq_zero_iff, ← List.map_eq_nil_iff (f := Allocation.size), hall]
      split <;> simp <;> omega
    · intro a ha
      have hmem : a.size ∈ fresh.map Allocation.size := List.mem_map_of_mem ha
      rw [hall] at hmem
      split at hmem
      · exact List.mem_singleton.mp hmem
      · cases hmem
  case unchanged =>
    intro hempty
    obtain ⟨other, hother, hsame⟩ := upload_of_empty (hp.tight hempty) site
    rw [h] at hother
    obtain ⟨-, rfl⟩ := Prod.mk.inj hother
    exact hsame

end ConstantBlock

namespace ConstantSet

/-- The accepted constants lie one behind the other. -/
structure Lies (alignment : Alignment) (kept : List (BufferId × Bytes)) (set : ConstantSet) : Prop where
  /-- The set holds the accepted constants, in the order in which they came. -/
  held : set.constants.map (fun c => (c.id, c.data)) = kept
  /-- Every offset is a multiple of the alignment. -/
  aligned : ∀ c ∈ set.constants, alignment.bytes ∣ c.offset
  /-- A constant ends before the next ones start. -/
  ordered : set.constants.Pairwise fun c d => c.stop ≤ d.offset
  /-- No constant goes beyond the size. -/
  inside : ∀ c ∈ set.constants, c.stop ≤ set.size
  /-- The size is the end of the last constant. -/
  ends : set.size = (set.constants.getLast?.map Constant.stop).getD 0

/-- The end of the last constant is the size. -/
theorem size_eq (set : ConstantSet) : set.size = (set.constants.getLast?.map Constant.stop).getD 0 := by
  unfold size
  cases set.constants.getLast? <;> rfl

/-- What a set accepts is packed. -/
theorem lies_offerAll (alignment : Alignment) (offered : List (BufferId × Bytes)) :
    (offerAll { alignment } offered).Packed ∧
      Lies alignment (accepted { alignment } offered) (offerAll { alignment } offered) := by
  obtain ⟨hpacked, halignment, hheld⟩ := (packed_empty alignment).offerAll offered
  refine ⟨hpacked, hheld, ?_, hpacked.ordered, hpacked.inside, size_eq _⟩
  intro c hc
  have haligned := hpacked.aligned c hc
  rw [halignment] at haligned
  exact haligned

/-- Whatever constants are offered, a set refuses exactly second constants of a buffer and those that fit nowhere,
without a trace, and the others lie one behind the other. On every device with enough free memory and addresses the
set becomes a block that returns them. -/
theorem offerAll_stored (alignment : Alignment) (offered : List (BufferId × Bytes)) (site : Site HostDevice)
    (hreachable : site.device.Reachable)
    (hfree : (offerAll { alignment } offered).size ≤ site.device.freeBytes) :
    let set := offerAll { alignment } offered
    (∀ earlier id data cause, (offerAll { alignment } earlier).add id data = .error cause ↔
      (offerAll { alignment } earlier).Refuses id data cause) ∧
    (∀ earlier id data cause, (offerAll { alignment } earlier).add id data = .error cause →
      offerAll { alignment } (earlier ++ [(id, data)]) = offerAll { alignment } earlier) ∧
    Lies alignment (accepted { alignment } offered) set ∧
    ((0 < set.size → site.device.nextAddress + set.size + HostDevice.addressStep < Word.limit) →
      ∃ block after, ConstantBlock.upload set site = (.ok block, after)) ∧
    ∀ block after, ConstantBlock.upload set site = (.ok block, after) →
      ConstantBlock.Stores set site.device block after.device := by
  intro set
  obtain ⟨hpacked, hlies⟩ := lies_offerAll alignment offered
  refine ⟨fun earlier id data cause => add_eq_error, ?_, hlies, ?_, ?_⟩
  · intro earlier id data cause h
    have hstep : offerAll { alignment } (earlier ++ [(id, data)]) =
        (offerAll { alignment } earlier).offer (id, data) := List.foldl_concat ..
    rw [hstep]
    exact offer_of_error h
  · exact ConstantBlock.upload_succeeds hpacked hreachable.sound hfree
  · intro block after h
    exact ConstantBlock.upload_stores hpacked hreachable.sound hfree h

/-- Offers at a multiple of 64 bytes: a second constant of the first buffer is refused. -/
def sampleOffers : List (BufferId × Bytes) := [(⟨0⟩, [1, 2, 3]), (⟨0⟩, [9]), (⟨1⟩, []), (⟨2⟩, [7, 8])]

/-- The last one of them is read back from the block, and a buffer that was never offered has no address. -/
theorem offerAll_stored_sampleOffers :
    ∃ (block : ConstantBlock) (after : Site HostDevice),
      ConstantBlock.upload (offerAll { alignment := ⟨64, by decide, by decide⟩ } sampleOffers)
        ⟨{ total := 4096 }, {}⟩ = (.ok block, after) ∧
      (∃ address, block.address? ⟨2⟩ = some address ∧ after.device.copyOut address 2 = .ok [7, 8]) ∧
      block.address? ⟨3⟩ = none := by
  have hconstants : (offerAll { alignment := ⟨64, by decide, by decide⟩ } sampleOffers).constants =
      [⟨⟨0⟩, 0, [1, 2, 3]⟩, ⟨⟨1⟩, 64, []⟩, ⟨⟨2⟩, 64, [7, 8]⟩] := by
    decide +kernel
  have hsize : (offerAll { alignment := ⟨64, by decide, by decide⟩ } sampleOffers).size = 66 := by
    decide +kernel
  obtain ⟨-, -, -, hupload, hstores⟩ :=
    offerAll_stored ⟨64, by decide, by decide⟩ sampleOffers ⟨{ total := 4096 }, {}⟩ (.fresh ..)
      (by rw [hsize]; decide)
  obtain ⟨block, after, hblock⟩ := hupload (by rw [hsize]; decide)
  have hall := hstores block after hblock
  refine ⟨block, after, hblock, ?_, ?_⟩
  · exact hall.returned ⟨⟨2⟩, 64, [7, 8]⟩ (by rw [hconstants]; decide) (by decide)
  · exact (hall.unknown ⟨3⟩).mpr (by rw [hconstants]; decide)

end ConstantSet
end MemoryPlan
