import Mathlib.Data.List.Induction
import MemoryPlan.Proofs.Association
import MemoryPlan.Proofs.Outcome
import MemoryPlan.Proofs.Transient.FirstFit
/-!
# Layouts of offered buffers

Buffers are offered to a set one after the other, and a refused buffer leaves no trace. What the set
accepted is a valid set: each buffer once, no lifespan inverted, and all rounded sizes together within the
word range. The layout of a valid set holds its buffers and no others, at aligned offsets inside the
region, and buffers that are alive together share no bytes.
-/

namespace MemoryPlan.TransientSet

/-- The set after a buffer was offered; a refused buffer leaves it as it was. -/
def offer (set : TransientSet) (t : Transient) : TransientSet :=
  match set.add t with
  | .ok after => after
  | .error _ => set

/-- The set after several buffers were offered, one after the other. -/
def offerAll (set : TransientSet) (offered : List Transient) : TransientSet := offered.foldl offer set

/-- Those of the offered buffers that the set accepts, in order. -/
def accepted : TransientSet → List Transient → List Transient
  | _, [] => []
  | set, t :: rest =>
    match set.add t with
    | .ok after => t :: accepted after rest
    | .error _ => accepted set rest

/-- What every set has whose buffers were accepted one by one. -/
structure Valid (set : TransientSet) : Prop where
  /-- Each buffer occurs once. -/
  distinct : (set.buffers.map Transient.id).Nodup
  /-- No lifespan is inverted. -/
  ordered : ∀ t ∈ set.buffers, t.start ≤ t.finish
  /-- Each size can be rounded. -/
  sizes : ∀ t ∈ set.buffers, t.size + set.alignment.bytes ≤ Word.limit
  /-- All rounded sizes together, and one alignment more, fit a word. -/
  room : set.reserved + set.alignment.bytes < Word.limit

variable {set after : TransientSet} {t : Transient}

/-- The rounded sizes can grow exactly if they still leave one alignment of room in the word range. -/
theorem grown?_eq_some {size total : Nat} :
    set.grown? size = some total ↔
      size + set.alignment.bytes ≤ Word.limit ∧
        set.reserved + set.alignment.up size + set.alignment.bytes < Word.limit ∧
        total = set.reserved + set.alignment.up size := by
  unfold grown?
  simp only [bind, Option.bind_eq_some_iff, Alignment.up?_eq_some, Word.add?_eq_some]
  constructor
  · rintro ⟨rounded, ⟨hs, rfl⟩, sum, ⟨-, rfl⟩, -, ⟨hr, -⟩, he⟩
    exact ⟨hs, hr, (Option.some.inj he).symm⟩
  · rintro ⟨hs, hr, rfl⟩
    exact ⟨_, ⟨hs, rfl⟩, _, ⟨by omega, rfl⟩, _, ⟨hr, rfl⟩, rfl⟩

/-- A buffer is accepted exactly if its lifespan is not inverted, its id is new, and the rounded sizes
still leave one alignment of room in the word range. -/
theorem add_eq_ok :
    set.add t = .ok after ↔
      t.start ≤ t.finish ∧ (∀ other ∈ set.buffers, other.id ≠ t.id) ∧
        t.size + set.alignment.bytes ≤ Word.limit ∧
        set.reserved + set.alignment.up t.size + set.alignment.bytes < Word.limit ∧
        after = { set with buffers := set.buffers ++ [t] } := by
  have hids : (set.buffers.any fun other => other.id = t.id) = true ↔
      ¬∀ other ∈ set.buffers, other.id ≠ t.id := by
    simp
  unfold add
  split
  · next hlt =>
    constructor
    · intro h; cases h
    · rintro ⟨hle, -⟩; omega
  · next hle =>
    split
    · next hdup =>
      constructor
      · intro h; cases h
      · rintro ⟨-, hnew, -⟩; exact absurd hnew (hids.mp hdup)
    · next hnew =>
      have hfresh : ∀ other ∈ set.buffers, other.id ≠ t.id := by
        by_contra hc
        exact hnew (hids.mpr hc)
      split
      · next hnone =>
        constructor
        · intro h; cases h
        · rintro ⟨-, -, hs, hr, -⟩
          rw [grown?_eq_some.mpr ⟨hs, hr, rfl⟩] at hnone
          cases hnone
      · next total hsome =>
        obtain ⟨hs, hr, -⟩ := grown?_eq_some.mp hsome
        constructor
        · intro h
          exact ⟨by omega, hfresh, hs, hr, (Except.ok.inj h).symm⟩
        · rintro ⟨-, -, -, -, rfl⟩
          rfl

theorem valid_empty (alignment : Alignment) : Valid { alignment } where
  distinct := List.nodup_nil
  ordered := by intro t ht; cases ht
  sizes := by intro t ht; cases ht
  room := by
    have h := alignment.fits
    simpa [reserved] using h

/-- An accepted buffer keeps the set valid. -/
theorem Valid.add (valid : Valid set) (h : set.add t = .ok after) : Valid after := by
  obtain ⟨hle, hnew, hs, hr, rfl⟩ := add_eq_ok.mp h
  refine ⟨?_, ?_, ?_, ?_⟩
  · rw [List.map_append, List.nodup_append]
    refine ⟨valid.distinct, List.nodup_singleton _, ?_⟩
    intro id hid other hother
    obtain ⟨u, hu, rfl⟩ := List.mem_map.mp hid
    rw [List.map_singleton, List.mem_singleton] at hother
    rw [hother]
    exact hnew u hu
  · intro u hu
    rcases List.mem_append.mp hu with hu | hu
    · exact valid.ordered u hu
    · rw [List.mem_singleton.mp hu]; exact hle
  · intro u hu
    rcases List.mem_append.mp hu with hu | hu
    · exact valid.sizes u hu
    · rw [List.mem_singleton.mp hu]; exact hs
  · have hsum : reserved { set with buffers := set.buffers ++ [t] } =
        set.reserved + set.alignment.up t.size :=
      Placement.roundedSize_append set.alignment set.buffers [t]
    rw [hsum]
    exact hr

/-- A set that accepts several buffers holds them, in their order, behind those that it held. -/
theorem Valid.addAll (valid : Valid set) {buffers : List Transient}
    (h : (set.addAll buffers).result = .ok after) :
    Valid after ∧ after = { set with buffers := set.buffers ++ buffers } := by
  unfold TransientSet.addAll at h
  rw [Progress.result_walk] at h
  induction buffers generalizing set with
  | nil =>
    rw [List.foldlM_nil] at h
    rw [← Except.pure_eq_ok.mp h, List.append_nil]
    exact ⟨valid, rfl⟩
  | cons t rest ih =>
    rw [List.foldlM_cons] at h
    obtain ⟨between, hadd, hrest⟩ := Except.bind_eq_ok.mp h
    obtain ⟨hvalid, hafter⟩ := ih (valid.add hadd) hrest
    obtain ⟨-, -, -, -, rfl⟩ := add_eq_ok.mp hadd
    refine ⟨hvalid, ?_⟩
    rw [hafter, List.append_assoc]
    rfl

/-- Whatever is offered, the set stays valid. -/
theorem Valid.offerAll (valid : Valid set) (offered : List Transient) :
    Valid (set.offerAll offered) := by
  induction offered generalizing set with
  | nil => exact valid
  | cons t rest ih =>
    change Valid ((set.offer t).offerAll rest)
    cases h : set.add t with
    | ok after =>
      have ho : set.offer t = after := by rw [offer, h]
      rw [ho]
      exact ih (valid.add h)
    | error cause =>
      have ho : set.offer t = set := by rw [offer, h]
      rw [ho]
      exact ih valid

/-- After all offers, the set holds what it held before and what it accepted, in order. -/
theorem offerAll_eq (offered : List Transient) :
    set.offerAll offered = { set with buffers := set.buffers ++ set.accepted offered } := by
  induction offered generalizing set with
  | nil => simp [offerAll, accepted]
  | cons t rest ih =>
    change (set.offer t).offerAll rest = _
    cases h : set.add t with
    | ok after =>
      have ho : set.offer t = after := by rw [offer, h]
      have ha : set.accepted (t :: rest) = t :: after.accepted rest := by rw [accepted, h]
      rw [ho, ha, ih]
      obtain ⟨-, -, -, -, rfl⟩ := add_eq_ok.mp h
      simp
    | error cause =>
      have ho : set.offer t = set := by rw [offer, h]
      have ha : set.accepted (t :: rest) = set.accepted rest := by rw [accepted, h]
      rw [ho, ha, ih]

/-- An empty set becomes the set of the accepted buffers. -/
theorem offerAll_new (alignment : Alignment) (offered : List Transient) :
    offerAll { alignment } offered = { alignment, buffers := accepted { alignment } offered } := by
  have hset : offerAll { alignment } offered = { alignment, buffers := [] ++ accepted { alignment } offered } :=
    offerAll_eq offered
  rw [hset, List.nil_append]

/-- The accepted buffers are a valid set. -/
theorem valid_accepted (alignment : Alignment) (offered : List Transient) :
    Valid { alignment, buffers := accepted { alignment } offered } := by
  rw [← offerAll_new]
  exact (valid_empty alignment).offerAll offered

/-- The buffers are placed in an order of their own. -/
theorem ordered_perm (set : TransientSet) : set.ordered.Perm set.buffers :=
  List.mergeSort_perm set.buffers Transient.before

/-- The order of placement does not change what the rounded sizes add up to. -/
theorem roundedSize_ordered (set : TransientSet) :
    Placement.roundedSize set.alignment set.ordered = set.reserved :=
  (set.ordered_perm.map _).foldr_eq' (fun x _ y _ z => Nat.add_left_comm y x z) 0

/-- The buffers are placed in the order of placement. -/
theorem ordered_before (set : TransientSet) : set.ordered.Pairwise fun t u => t.before u = true := by
  have htrans : ∀ a b c : Transient, a.before b = true → b.before c = true → a.before c = true := by
    intro a b c hab hbc
    simp only [Transient.before, Bool.or_eq_true, Bool.and_eq_true, decide_eq_true_eq, beq_iff_eq] at *
    omega
  have htotal : ∀ a b : Transient, (a.before b || b.before a) = true := by
    intro a b
    simp only [Transient.before, Bool.or_eq_true, Bool.and_eq_true, decide_eq_true_eq, beq_iff_eq]
    omega
  exact List.pairwise_mergeSort htrans htotal set.buffers

/-- The buffers are placed by ascending start of their lifespans. -/
theorem ordered_pairwise (set : TransientSet) : set.ordered.Pairwise fun t u => t.start ≤ u.start := by
  apply List.Pairwise.imp _ set.ordered_before
  intro a b hab
  simp only [Transient.before, Bool.or_eq_true, Bool.and_eq_true, decide_eq_true_eq, beq_iff_eq] at hab
  omega

/-- Each buffer is placed once, in that order. -/
theorem map_buffer_placements (set : TransientSet) :
    set.placements.map Placement.buffer = set.ordered :=
  Placement.map_buffer_place _ _ _

theorem mem_buffers_of_mem_placements {p : Placement} (hp : p ∈ set.placements) :
    p.buffer ∈ set.buffers := by
  have hm : p.buffer ∈ set.placements.map Placement.buffer := List.mem_map_of_mem hp
  rw [map_buffer_placements] at hm
  exact set.ordered_perm.mem_iff.mp hm

/-- Each buffer of the set is placed. -/
theorem exists_placement (ht : t ∈ set.buffers) : ∃ p ∈ set.placements, p.buffer = t := by
  have hm : t ∈ set.placements.map Placement.buffer := by
    rw [map_buffer_placements]
    exact set.ordered_perm.mem_iff.mpr ht
  exact List.mem_map.mp hm

/-- The placements in front of one of them are placements too. -/
theorem mem_of_split {first last : List Placement} {p : Placement}
    (h : set.placements = first ++ p :: last) :
    p ∈ set.placements ∧ ∀ q ∈ first, q ∈ set.placements := by
  rw [h]
  exact ⟨List.mem_append_right _ List.mem_cons_self, fun q hq => List.mem_append_left _ hq⟩

/-- Every place was found among all placements in front of it. -/
theorem chosen {first last : List Placement} {p : Placement} (h : set.placements = first ++ p :: last) :
    Placement.Chosen set.alignment first p := by
  have hremains : Placement.Remains [] [] set.ordered := fun t _ => List.Perm.nil
  exact Placement.place_chosen List.Pairwise.nil hremains set.ordered_pairwise h

/-- What holds of no placements, and of one placement more, holds of all of them. -/
theorem placements_induction (set : TransientSet) {motive : List Placement → Prop} (nil : motive [])
    (next : ∀ first p last, set.placements = first ++ p :: last → motive first → motive (first ++ [p])) :
    motive set.placements := by
  have hprefix : ∀ first last, set.placements = first ++ last → motive first := by
    intro first
    induction first using List.reverseRecOn with
    | nil => intro last _; exact nil
    | append_singleton first p ih =>
      intro last h
      rw [List.append_assoc, List.singleton_append] at h
      exact next first p last h (ih (p :: last) h)
  exact hprefix set.placements [] (List.append_nil _).symm

/-- Every placement ends inside the region. -/
theorem stop_le_layout_size {p : Placement} (hp : p ∈ set.placements) : p.stop ≤ set.layout.size := by
  have hmax : ∀ (stops : List Nat) (highest : Nat),
      highest ≤ stops.foldl max highest ∧ ∀ s ∈ stops, s ≤ stops.foldl max highest := by
    intro stops
    induction stops with
    | nil => intro highest; exact ⟨le_refl _, by intro s hs; cases hs⟩
    | cons s rest ih =>
      intro highest
      obtain ⟨hinit, hrest⟩ := ih (max highest s)
      refine ⟨le_trans (Nat.le_max_left _ _) hinit, ?_⟩
      intro u hu
      rcases List.mem_cons.mp hu with rfl | hu
      · exact le_trans (Nat.le_max_right _ _) hinit
      · exact hrest u hu
  exact (hmax _ 0).2 p.stop (List.mem_map_of_mem hp)

namespace Valid

variable (valid : Valid set)

include valid

/-- The accepted buffers can be placed below the sum of their rounded sizes. -/
theorem room_placements : Placement.Room set.alignment 0 [] set.ordered := by
  refine ⟨List.Pairwise.nil, Nat.dvd_zero _, ?_, ?_, ?_⟩
  · intro p hp; cases hp
  · intro t ht
    exact valid.sizes t (set.ordered_perm.mem_iff.mp ht)
  · have hsum := set.roundedSize_ordered
    have hroom := valid.room
    omega

/-- Every placement ends so early that one alignment more still fits a word. -/
theorem stop_fits {p : Placement} (hp : p ∈ set.placements) :
    p.stop + set.alignment.bytes < Word.limit := by
  have hstop := (valid.room_placements.place_fits p hp).2
  have hsum := set.roundedSize_ordered
  have hroom := valid.room
  omega

/-- No buffer has two offsets. -/
theorem nodup_entries : (set.layout.entries.map Prod.fst).Nodup := by
  have hm : set.layout.entries.map Prod.fst = set.ordered.map Transient.id := by
    rw [← map_buffer_placements]
    simp [layout, List.map_map, Function.comp_def]
  rw [hm]
  exact (set.ordered_perm.map _).nodup_iff.mpr valid.distinct

/-- The layout gives a buffer the offset of its placement. -/
theorem offset?_placement {p : Placement} (hp : p ∈ set.placements) :
    set.layout.offset? p.buffer.id = some p.offset := by
  apply (Association.lookup_eq_some_iff_mem valid.nodup_entries).mpr
  exact List.mem_map.mpr ⟨p, hp, rfl⟩

/-- An offset is known exactly for the buffers that are placed. -/
theorem offset?_eq_some_iff {id : BufferId} {offset : Nat} :
    set.layout.offset? id = some offset ↔
      ∃ p ∈ set.placements, p.buffer.id = id ∧ p.offset = offset := by
  constructor
  · intro h
    obtain ⟨p, hp, he⟩ := List.mem_map.mp (Association.mem_of_lookup h)
    obtain ⟨hid, hoffset⟩ := Prod.mk.inj he
    exact ⟨p, hp, hid, hoffset⟩
  · rintro ⟨p, hp, rfl, rfl⟩
    exact valid.offset?_placement hp

/-- The layout holds the buffers of the set and no others. -/
theorem isSome_offset?_iff {id : BufferId} :
    (set.layout.offset? id).isSome ↔ ∃ t ∈ set.buffers, t.id = id := by
  rw [Option.isSome_iff_exists]
  constructor
  · rintro ⟨offset, h⟩
    obtain ⟨p, hp, hid, -⟩ := valid.offset?_eq_some_iff.mp h
    exact ⟨p.buffer, mem_buffers_of_mem_placements hp, hid⟩
  · rintro ⟨t, ht, rfl⟩
    obtain ⟨p, hp, rfl⟩ := exists_placement ht
    exact ⟨p.offset, valid.offset?_placement hp⟩

/-- A buffer of the set lies at an aligned offset inside the region. -/
theorem offset_fits {offset : Nat} (ht : t ∈ set.buffers) (h : set.layout.offset? t.id = some offset) :
    set.alignment.bytes ∣ offset ∧ offset + t.size ≤ set.layout.size := by
  obtain ⟨p, hp, rfl⟩ := exists_placement ht
  rw [valid.offset?_placement hp] at h
  obtain rfl := Option.some.inj h
  exact ⟨(valid.room_placements.place_fits p hp).1, stop_le_layout_size hp⟩

/-- Two buffers that are alive together lie apart. -/
theorem offset_apart {u : Transient} {i j : Nat} (ht : t ∈ set.buffers) (hu : u ∈ set.buffers)
    (hne : t.id ≠ u.id) (htu : t.start ≤ u.finish) (hut : u.start ≤ t.finish)
    (hi : set.layout.offset? t.id = some i) (hj : set.layout.offset? u.id = some j) :
    i + t.size ≤ j ∨ j + u.size ≤ i := by
  obtain ⟨p, hp, rfl⟩ := exists_placement ht
  obtain ⟨q, hq, rfl⟩ := exists_placement hu
  rw [valid.offset?_placement hp] at hi
  rw [valid.offset?_placement hq] at hj
  obtain rfl := Option.some.inj hi
  obtain rfl := Option.some.inj hj
  have hpair := valid.room_placements.place_pairwise set.ordered_pairwise
  -- either of the two may have been placed first, so the pairs are read in both directions
  have hboth : ∀ p ∈ set.placements, ∀ q ∈ set.placements, p.buffer.id ≠ q.buffer.id →
      p.buffer.start ≤ q.buffer.finish → q.buffer.start ≤ p.buffer.finish → p.Apart q := by
    apply List.Pairwise.forall_of_forall_of_flip
    · intro p _ hself
      exact absurd rfl hself
    · exact hpair.imp fun h _ _ halive => h halive
    · exact hpair.imp fun h _ halive _ => (h halive).symm
  exact hboth p hp q hq hne htu hut

end Valid

/-- Whatever is offered, the layout holds exactly the accepted buffers, at aligned offsets inside the
region; two of them that are alive together share no bytes. -/
theorem layout_offerAll (alignment : Alignment) (offered : List Transient) :
    let set := offerAll { alignment } offered
    let kept := accepted { alignment } offered
    set.layout.count = kept.length ∧
      (∀ id, (set.layout.offset? id).isSome ↔ ∃ t ∈ kept, t.id = id) ∧
      (∀ t ∈ kept, ∃ offset, set.layout.offset? t.id = some offset ∧
        alignment.bytes ∣ offset ∧ offset + t.size ≤ set.layout.size) ∧
      (∀ t ∈ kept, ∀ u ∈ kept, t ≠ u → t.start ≤ u.finish → u.start ≤ t.finish →
        ∀ i j, set.layout.offset? t.id = some i → set.layout.offset? u.id = some j →
          i + t.size ≤ j ∨ j + u.size ≤ i) := by
  intro set kept
  have valid : Valid set := (valid_empty alignment).offerAll offered
  have hset : set = { alignment, buffers := kept } := by
    have h : set = { alignment, buffers := [] ++ kept } := offerAll_eq offered
    rw [h, List.nil_append]
  have hbuffers : set.buffers = kept := by rw [hset]
  have halignment : set.alignment = alignment := by rw [hset]
  refine ⟨?_, ?_, ?_, ?_⟩
  · have hlength := set.ordered_perm.length_eq
    rw [← map_buffer_placements, List.length_map, hbuffers] at hlength
    simpa [Layout.count, layout] using hlength
  · intro id
    rw [valid.isSome_offset?_iff, hbuffers]
  · intro t ht
    have hm : t ∈ set.buffers := hbuffers ▸ ht
    obtain ⟨offset, h⟩ := Option.isSome_iff_exists.mp (valid.isSome_offset?_iff.mpr ⟨t, hm, rfl⟩)
    have hfits := valid.offset_fits hm h
    rw [halignment] at hfits
    exact ⟨offset, h, hfits⟩
  · intro t ht u hu hne htu hut i j hi hj
    rw [← hbuffers] at ht hu
    have hid : t.id ≠ u.id := by
      intro he
      exact hne (List.inj_on_of_nodup_map valid.distinct ht hu he)
    exact valid.offset_apart ht hu hid htu hut hi hj

/-- Buffers that were added in the order of placement are placed as they are. -/
theorem placements_eq {set : TransientSet} (h : set.buffers.Pairwise fun t u => Transient.before t u) :
    set.placements = Placement.place set.alignment [] set.buffers := by
  unfold placements ordered
  rw [List.mergeSort_of_pairwise h]

/-- Buffers 1 and 2 start together and buffer 3 when only buffer 2 is left; a second buffer 2 and an
inverted lifespan are refused. Buffers 2 and 3 lie apart. -/
theorem layout_offerAll_three :
    let offered : List Transient :=
      [⟨⟨1⟩, 0, 0, 20⟩, ⟨⟨2⟩, 0, 1, 20⟩, ⟨⟨2⟩, 0, 5, 7⟩, ⟨⟨4⟩, 3, 2, 8⟩, ⟨⟨3⟩, 1, 1, 10⟩]
    accepted {} offered = [⟨⟨1⟩, 0, 0, 20⟩, ⟨⟨2⟩, 0, 1, 20⟩, ⟨⟨3⟩, 1, 1, 10⟩] ∧
      (offerAll {} offered).layout.offset? ⟨2⟩ = some 20 ∧
      (offerAll {} offered).layout.offset? ⟨3⟩ = some 0 ∧ (20 + 20 ≤ 0 ∨ 0 + 10 ≤ 20) := by
  intro offered
  have haccepted : accepted {} offered = [⟨⟨1⟩, 0, 0, 20⟩, ⟨⟨2⟩, 0, 1, 20⟩, ⟨⟨3⟩, 1, 1, 10⟩] := by decide
  have hlayout : (offerAll {} offered).layout = ⟨40, [(⟨1⟩, 0), (⟨2⟩, 20), (⟨3⟩, 0)]⟩ := by
    unfold layout
    rw [placements_eq (by decide)]
    decide
  have htwo : (offerAll {} offered).layout.offset? ⟨2⟩ = some 20 := by
    rw [hlayout]
    decide
  have hthree : (offerAll {} offered).layout.offset? ⟨3⟩ = some 0 := by
    rw [hlayout]
    decide
  refine ⟨haccepted, htwo, hthree, ?_⟩
  have hapart := (layout_offerAll .byte offered).2.2.2
  exact hapart ⟨⟨2⟩, 0, 1, 20⟩ (by decide) ⟨⟨3⟩, 1, 1, 10⟩ (by decide) (by decide) (by decide) (by decide)
    20 0 htwo hthree

end MemoryPlan.TransientSet
