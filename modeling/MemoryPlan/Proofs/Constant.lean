import Mathlib.Order.Bounds.Basic
import MemoryPlan.Constant
import MemoryPlan.Proofs.Association
import MemoryPlan.Proofs.Device.Memory
import MemoryPlan.Proofs.Outcome
import MemoryPlan.Proofs.Rounding
/-!
# Packed constants

Constants that were accepted lie one behind the other in the order in which they were added, each at an
aligned offset, and the last one ends at the size of the block.
-/

namespace MemoryPlan.ConstantSet

variable {set after : ConstantSet} {id : BufferId} {data : Bytes}

/-- What holds of every set that adding constants leads to. -/
structure Packed (set : ConstantSet) : Prop where
  /-- No buffer occurs twice. -/
  distinct : (set.constants.map Constant.id).Nodup
  /-- Each constant ends before the next one starts. -/
  ordered : set.constants.Pairwise fun c d => c.stop ≤ d.offset
  /-- Each constant ends inside the block. -/
  inside : ∀ c ∈ set.constants, c.stop ≤ set.size
  /-- Each offset is aligned. -/
  aligned : ∀ c ∈ set.constants, set.alignment.bytes ∣ c.offset
  /-- Constants without bytes take no room. -/
  tight : (∀ c ∈ set.constants, c.data = []) → set.size = 0

theorem packed_empty (alignment : Alignment) : Packed { alignment } := by
  refine ⟨List.nodup_nil, List.Pairwise.nil, ?_, ?_, fun _ => rfl⟩
  · intro c hc
    cases hc
  · intro c hc
    cases hc

/-- The end of the block after a further constant. -/
theorem size_concat (alignment : Alignment) (constants : List Constant) (c : Constant) :
    size { alignment, constants := constants ++ [c] } = c.stop := by
  unfold size
  rw [List.getLast?_concat]

/-- So many bytes fit behind the set at an offset. -/
def Fits (set : ConstantSet) (length offset : Nat) : Prop :=
  set.size ≤ offset ∧ set.alignment.bytes ∣ offset ∧ offset + length < Word.limit

/-- Where something fits, the size can be rounded up. -/
theorem Fits.room {length offset : Nat} (h : set.Fits length offset) :
    set.size + set.alignment.bytes ≤ Word.limit := by
  obtain ⟨hle, hdvd, hlimit⟩ := h
  have hstep : offset + set.alignment.bytes ≤ Word.limit := Alignment.add_bytes_le_limit hdvd (by omega)
  omega

/-- What fits somewhere fits at the rounded size, and at no smaller offset. -/
theorem Fits.first {length offset : Nat} (h : set.Fits length offset) :
    IsLeast {place | set.Fits length place} (set.alignment.up set.size) := by
  have hroom := h.room
  have hup : set.alignment.up set.size ≤ offset := Alignment.up_le hroom h.2.1 h.1
  have hlimit := h.2.2
  refine ⟨⟨Alignment.le_up hroom, Alignment.dvd_up hroom, by omega⟩, ?_⟩
  rintro place ⟨hle, hdvd, -⟩
  exact Alignment.up_le hroom hdvd hle

/-- A further constant goes to the first offset at which it fits. -/
theorem nextOffset?_eq_some {length offset : Nat} :
    set.nextOffset? length = some offset ↔ IsLeast {place | set.Fits length place} offset := by
  unfold nextOffset?
  simp only [bind, Option.bind_eq_some_iff, Alignment.up?_eq_some, Word.add?_eq_some, Option.pure_def,
    Option.some.injEq]
  constructor
  · rintro ⟨rounded, ⟨hroom, rfl⟩, stop, ⟨hlimit, -⟩, rfl⟩
    have hfits : set.Fits length (set.alignment.up set.size) :=
      ⟨Alignment.le_up hroom, Alignment.dvd_up hroom, hlimit⟩
    exact hfits.first
  · intro hleast
    have hfirst := hleast.1.first
    exact ⟨_, ⟨hleast.1.room, rfl⟩, _, ⟨hfirst.1.2.2, rfl⟩, hfirst.unique hleast⟩

/-- A constant that goes nowhere fits nowhere. -/
theorem nextOffset?_eq_none {length : Nat} :
    set.nextOffset? length = none ↔ ∀ offset, ¬set.Fits length offset := by
  constructor
  · intro hnone offset hfits
    rw [nextOffset?_eq_some.mpr hfits.first] at hnone
    cases hnone
  · intro hnever
    cases hoffset : set.nextOffset? length with
    | none => rfl
    | some offset => exact absurd (nextOffset?_eq_some.mp hoffset).1 (hnever offset)

/-- The search for a name finds a constant of that name, if there is one. -/
theorem any_id_iff : (set.constants.any fun other => other.id = id) = true ↔ ∃ c ∈ set.constants, c.id = id := by
  simp

/-- A set accepts exactly the constants of new buffers that fit, at the first offset at which they do. -/
theorem add_eq_ok :
    set.add id data = .ok after ↔ (∀ c ∈ set.constants, c.id ≠ id) ∧
      ∃ offset, IsLeast {place | set.Fits data.length place} offset ∧
        after = { set with constants := set.constants ++ [⟨id, offset, data⟩] } := by
  unfold add
  split
  · next hknown =>
    obtain ⟨c, hc, hid⟩ := any_id_iff.mp hknown
    constructor
    · intro h
      cases h
    · rintro ⟨hnew, -⟩
      exact absurd hid (hnew c hc)
  · next hnew =>
    have hfresh : ∀ c ∈ set.constants, c.id ≠ id := fun c hc hid => hnew (any_id_iff.mpr ⟨c, hc, hid⟩)
    split
    · next hnone =>
      constructor
      · intro h
        cases h
      · rintro ⟨-, offset, hleast, -⟩
        rw [nextOffset?_eq_some.mpr hleast] at hnone
        cases hnone
    · next offset hoffset =>
      have hleast := nextOffset?_eq_some.mp hoffset
      constructor
      · intro h
        exact ⟨hfresh, offset, hleast, (Except.ok.inj h).symm⟩
      · rintro ⟨-, other, hother, rfl⟩
        rw [hleast.unique hother]

/-- A constant that is accepted is packed behind the others. -/
theorem Packed.add (hp : set.Packed) (h : set.add id data = .ok after) : after.Packed := by
  obtain ⟨hnew, offset, ⟨⟨hle, hdvd, hlimit⟩, hleast⟩, rfl⟩ := add_eq_ok.mp h
  refine ⟨?_, ?_, ?_, ?_, ?_⟩
  · rw [List.map_append]
    refine List.nodup_append'.mpr ⟨hp.distinct, List.nodup_singleton _, ?_⟩
    intro other hother hself
    obtain ⟨c, hc, rfl⟩ := List.mem_map.mp hother
    exact hnew c hc (List.mem_singleton.mp hself)
  · refine List.pairwise_append.mpr ⟨hp.ordered, List.pairwise_singleton _ _, ?_⟩
    intro c hc d hd
    rw [List.mem_singleton.mp hd]
    exact Nat.le_trans (hp.inside c hc) hle
  · intro c hc
    rw [size_concat]
    rcases List.mem_append.mp hc with hold | hself
    · have hinside := hp.inside c hold
      change c.stop ≤ offset + data.length
      omega
    · obtain rfl := List.mem_singleton.mp hself
      exact Nat.le_refl _
  · intro c hc
    rcases List.mem_append.mp hc with hold | hself
    · exact hp.aligned c hold
    · rw [List.mem_singleton.mp hself]
      exact hdvd
  · intro hempty
    have hzero : set.size = 0 := hp.tight fun c hc => hempty c (List.mem_append_left _ hc)
    have hdata : data = [] := hempty ⟨id, offset, data⟩ (List.mem_append_right _ (List.mem_singleton_self _))
    have hfirst : offset ≤ 0 := hleast ⟨Nat.le_of_eq hzero, Nat.dvd_zero _, by omega⟩
    rw [size_concat, Constant.stop, hdata]
    exact Nat.le_zero.mp hfirst

/-- A set that accepts several constants holds them, in their order, behind those that it held. -/
theorem Packed.addAll (hp : set.Packed) {items : List (BufferId × Bytes)}
    (h : (set.addAll items).result = .ok after) :
    after.Packed ∧ after.constants.map (fun c => (c.id, c.data)) =
      set.constants.map (fun c => (c.id, c.data)) ++ items := by
  unfold ConstantSet.addAll at h
  rw [Progress.result_walk] at h
  induction items generalizing set with
  | nil =>
    rw [List.foldlM_nil] at h
    rw [← Except.pure_eq_ok.mp h, List.append_nil]
    exact ⟨hp, rfl⟩
  | cons item rest ih =>
    rw [List.foldlM_cons] at h
    obtain ⟨between, hadd, hrest⟩ := Except.bind_eq_ok.mp h
    obtain ⟨hpacked, hitems⟩ := ih (hp.add hadd) hrest
    obtain ⟨-, offset, -, rfl⟩ := add_eq_ok.mp hadd
    refine ⟨hpacked, ?_⟩
    rw [hitems, List.map_append, List.append_assoc]
    rfl

/-- The layout finds each constant at its offset. -/
theorem Packed.offset?_eq_some_iff (hp : set.Packed) {offset : Nat} :
    set.layout.offset? id = some offset ↔ ∃ c ∈ set.constants, c.id = id ∧ c.offset = offset := by
  have hnodup : ((set.constants.map fun c => (c.id, c.offset)).map Prod.fst).Nodup := by
    rw [List.map_map]
    exact hp.distinct
  unfold Layout.offset? layout
  dsimp only
  rw [Association.lookup_eq_some_iff_mem hnodup, List.mem_map]
  constructor
  · rintro ⟨c, hc, heq⟩
    obtain ⟨rfl, rfl⟩ := Prod.mk.inj heq
    exact ⟨c, hc, rfl, rfl⟩
  · rintro ⟨c, hc, rfl, rfl⟩
    exact ⟨c, hc, rfl⟩

/-- No constant loses its offset. -/
theorem Packed.offset?_eq_some (hp : set.Packed) :
    ∀ c ∈ set.constants, set.layout.offset? c.id = some c.offset :=
  fun c hc => hp.offset?_eq_some_iff.mpr ⟨c, hc, rfl, rfl⟩

/-- The memory after the constants were written behind an address, one after the other. -/
def written (base : Nat) (constants : List Constant) (m : Memory) : Memory :=
  constants.foldl (fun m c => m.write (base + c.offset) c.data) m

/-- Writing constants changes no byte before the first of them. -/
theorem written_before {base x : Nat} {constants : List Constant} (m : Memory)
    (h : ∀ c ∈ constants, x < base + c.offset) : written base constants m x = m x := by
  induction constants generalizing m with
  | nil => rfl
  | cons c rest ih =>
    change written base rest (m.write (base + c.offset) c.data) x = m x
    rw [ih _ fun d hd => h d (List.mem_cons_of_mem c hd)]
    exact Memory.write_outside (Or.inl (h c (List.mem_cons_self ..)))

/-- No constant overwrites another one. -/
theorem bytes_written {base : Nat} {constants : List Constant} (m : Memory)
    (h : constants.Pairwise fun c d => c.stop ≤ d.offset) {c : Constant} (hc : c ∈ constants) :
    (written base constants m).bytes (base + c.offset) c.data.length = c.data := by
  induction constants generalizing m with
  | nil => cases hc
  | cons d rest ih =>
    obtain ⟨hbehind, hrest⟩ := List.pairwise_cons.mp h
    change (written base rest (m.write (base + d.offset) d.data)).bytes _ _ = _
    rcases List.mem_cons.mp hc with rfl | hc
    · have hkeep : (written base rest (m.write (base + c.offset) c.data)).bytes
          (base + c.offset) c.data.length =
          (m.write (base + c.offset) c.data).bytes (base + c.offset) c.data.length := by
        apply Memory.bytes_congr
        intro x _ hlt
        apply written_before
        intro e he
        have hstop : c.offset + c.data.length ≤ e.offset := hbehind e he
        omega
      rw [hkeep]
      exact Memory.bytes_write m _ c.data
    · exact ih _ hrest hc

end MemoryPlan.ConstantSet
