import Mathlib.Order.Lattice.Nat
import MemoryPlan.Proofs.Transient.Footprint
/-!
# Buffers of one size

Buffers of one size divide the region into slots as wide as the rounded size. A buffer goes to the lowest
slot that no live buffer holds, so that its slot number is at most the number of live buffers beside it;
and buffers that are alive together hold different slots. Hence first fit needs exactly as many slots as
there are buffers alive at the most crowded position.
-/

namespace MemoryPlan

namespace Transient

/-- How many of the buffers are alive at a position. -/
def crowd (buffers : List Transient) (position : Nat) : Nat :=
  buffers.countP fun t => t.aliveAt position

/-- Some position is the most crowded one. -/
theorem exists_isGreatest_crowd (buffers : List Transient) :
    ∃ most, IsGreatest (Set.range (crowd buffers)) most := by
  have hbounded : BddAbove (Set.range (crowd buffers)) := by
    refine ⟨buffers.length, ?_⟩
    rintro count ⟨position, rfl⟩
    exact List.countP_le_length
  have hsome : (Set.range (crowd buffers)).Nonempty := Set.range_nonempty _
  exact ⟨_, Nat.sSup_mem hsome hbounded, fun _ h => le_csSup hbounded h⟩

end Transient

namespace Placement

variable {alignment : Alignment} {size candidate : Nat} {live : List Placement}

/-- Among live buffers of the same size, the search stays on the slots and passes at most one slot for each
of them. -/
theorem firstFit_slot (hpos : 1 ≤ size) (hfits : size + alignment.bytes ≤ Word.limit)
    (hlive : ∀ q ∈ live, q.buffer.size = size ∧ alignment.up size ∣ q.offset)
    (hstops : ∀ q ∈ live, q.stop + alignment.bytes ≤ Word.limit) (hc : alignment.up size ∣ candidate) :
    alignment.up size ∣ firstFit alignment size candidate live ∧
      firstFit alignment size candidate live ≤ candidate + live.length * alignment.up size := by
  induction live generalizing candidate with
  | nil => exact ⟨hc, Nat.le_add_right _ _⟩
  | cons q rest ih =>
    unfold firstFit
    split
    · exact ⟨hc, Nat.le_add_right _ _⟩
    · next hnostop =>
      obtain ⟨hqsize, hqslot⟩ := hlive q List.mem_cons_self
      have hqstop := hstops q List.mem_cons_self
      have hstop : q.stop = q.offset + size := by rw [stop, hqsize]
      have hup : alignment.up q.stop = q.offset + alignment.up size := by
        rw [hstop] at hqstop ⊢
        exact Alignment.up_add hqstop ((Alignment.dvd_up hfits).trans hqslot)
      have hround : size ≤ alignment.up size := Alignment.le_up hfits
      have hle : q.offset ≤ candidate := Nat.le_of_lt_add_of_dvd (by omega) hqslot hc
      have hnext : alignment.up size ∣ max candidate (alignment.up q.stop) := by
        rw [hup]
        exact max_rec' _ hc (Nat.dvd_add hqslot (dvd_refl _))
      obtain ⟨hslot, hbound⟩ := ih (fun r hr => hlive r (List.mem_cons_of_mem _ hr))
        (fun r hr => hstops r (List.mem_cons_of_mem _ hr)) hnext
      refine ⟨hslot, ?_⟩
      rw [List.length_cons, Nat.succ_mul]
      omega

end Placement

namespace TransientSet

variable {set : TransientSet} {size most : Nat}

/-- The crowd at a position are the placements that are alive there. -/
theorem crowd_eq (set : TransientSet) (position : Nat) :
    Transient.crowd set.buffers position = (set.aliveAt position).length := by
  have hlength := (set.map_buffer_aliveAt position).length_eq
  rw [List.length_map] at hlength
  rw [Transient.crowd, List.countP_eq_length_filter, hlength]

namespace Valid

variable (valid : Valid set)

include valid

/-- A buffer is itself alive at its start, so that fewer of those in front of it are. -/
theorem alive_lt_crowd {first last : List Placement} {p : Placement}
    (h : set.placements = first ++ p :: last) :
    (first.filter fun q => q.buffer.aliveAt p.buffer.start).length <
      Transient.crowd set.buffers p.buffer.start := by
  obtain ⟨hp, -⟩ := mem_of_split h
  have horder := valid.ordered p.buffer (mem_buffers_of_mem_placements hp)
  have halive : p.buffer.aliveAt p.buffer.start = true := by
    simp [Transient.aliveAt, horder]
  have hown : p ∈ (p :: last).filter fun q => q.buffer.aliveAt p.buffer.start :=
    List.mem_filter.mpr ⟨List.mem_cons_self, halive⟩
  have hlength := List.length_pos_of_mem hown
  rw [crowd_eq, aliveAt, h, List.filter_append, List.length_append]
  omega

section EqualSizes

variable (hpos : 1 ≤ size) (hsize : ∀ t ∈ set.buffers, t.size = size)

include hpos hsize

/-- Each buffer lies on a slot, and no further back than the number of buffers alive beside it. -/
theorem slot_of_split {first last : List Placement} {p : Placement}
    (h : set.placements = first ++ p :: last)
    (hfirst : ∀ q ∈ first, set.alignment.up size ∣ q.offset) :
    set.alignment.up size ∣ p.offset ∧
      p.offset ≤ (Transient.crowd set.buffers p.buffer.start - 1) * set.alignment.up size := by
  obtain ⟨alive, hperm, -, hoffset⟩ := chosen h
  obtain ⟨hp, hmem⟩ := mem_of_split h
  have hpsize := hsize p.buffer (mem_buffers_of_mem_placements hp)
  have hfits := valid.sizes p.buffer (mem_buffers_of_mem_placements hp)
  rw [hpsize] at hoffset hfits
  have hearlier : ∀ q ∈ alive, q ∈ first := fun q hq => List.mem_of_mem_filter (hperm.mem_iff.mp hq)
  have hplaced : ∀ q ∈ alive, q ∈ set.placements := fun q hq => hmem q (hearlier q hq)
  have hlive : ∀ q ∈ alive, q.buffer.size = size ∧ set.alignment.up size ∣ q.offset := by
    intro q hq
    exact ⟨hsize q.buffer (mem_buffers_of_mem_placements (hplaced q hq)), hfirst q (hearlier q hq)⟩
  have hstops : ∀ q ∈ alive, q.stop + set.alignment.bytes ≤ Word.limit :=
    fun q hq => Nat.le_of_lt (valid.stop_fits (hplaced q hq))
  obtain ⟨hslot, hbound⟩ := Placement.firstFit_slot hpos hfits hlive hstops (Nat.dvd_zero _)
  have hlength := hperm.length_eq
  have hcrowd := valid.alive_lt_crowd h
  have hfew : alive.length ≤ Transient.crowd set.buffers p.buffer.start - 1 := by omega
  have hmul := Nat.mul_le_mul_right (set.alignment.up size) hfew
  rw [← hoffset] at hslot hbound
  exact ⟨hslot, by omega⟩

/-- Buffers of equal sizes lie in slots of that size. -/
theorem dvd_offset : ∀ p ∈ set.placements, set.alignment.up size ∣ p.offset := by
  apply set.placements_induction (motive := fun first => ∀ p ∈ first, set.alignment.up size ∣ p.offset)
  · intro p hp
    cases hp
  · intro first q last h hfirst p hp
    rcases List.mem_append.mp hp with hp | hp
    · exact hfirst p hp
    · rw [List.mem_singleton.mp hp]
      exact (valid.slot_of_split hpos hsize h hfirst).1

/-- No buffer lies behind the slots of the largest crowd. -/
theorem offset_le_crowd (hmost : ∀ position, Transient.crowd set.buffers position ≤ most) :
    ∀ p ∈ set.placements, p.offset ≤ (most - 1) * set.alignment.up size := by
  intro p hp
  obtain ⟨first, last, h⟩ := List.append_of_mem hp
  have hfirst : ∀ q ∈ first, set.alignment.up size ∣ q.offset :=
    fun q hq => valid.dvd_offset hpos hsize q ((mem_of_split h).2 q hq)
  have hoffset := (valid.slot_of_split hpos hsize h hfirst).2
  have hle := hmost p.buffer.start
  have hmul := Nat.mul_le_mul_right (set.alignment.up size)
    (show Transient.crowd set.buffers p.buffer.start - 1 ≤ most - 1 by omega)
  omega

/-- Buffers that are alive together hold different slots, so that the last slot of the region lies behind all
but one of them. -/
theorem crowd_mul_le (position : Nat) (hsome : 0 < Transient.crowd set.buffers position) :
    Transient.crowd set.buffers position * set.alignment.up size + size ≤
      set.layout.size + set.alignment.up size := by
  rw [crowd_eq] at hsome ⊢
  have hends : ∀ p ∈ set.aliveAt position,
      set.alignment.up size ∣ p.offset ∧ p.buffer.size = size ∧ p.offset + size ≤ set.layout.size := by
    intro p hp
    have hplaced := List.mem_of_mem_filter hp
    have hpsize := hsize p.buffer (mem_buffers_of_mem_placements hplaced)
    have hstop : p.offset + p.buffer.size ≤ set.layout.size := stop_le_layout_size hplaced
    rw [hpsize] at hstop
    exact ⟨valid.dvd_offset hpos hsize p hplaced, hpsize, hstop⟩
  have hapart : (set.aliveAt position).Pairwise fun p q =>
      p.offset + set.alignment.up size ≤ q.offset ∨ q.offset + set.alignment.up size ≤ p.offset := by
    apply List.Pairwise.imp_of_mem _ (valid.pairwise_aliveAt position)
    intro p q hp hq hpq
    obtain ⟨hpslot, hpsize, -⟩ := hends p hp
    obtain ⟨hqslot, hqsize, -⟩ := hends q hq
    have hpstop : p.stop = p.offset + size := by rw [Placement.stop, hpsize]
    have hqstop : q.stop = q.offset + size := by rw [Placement.stop, hqsize]
    by_contra hnear
    -- two slots that are less than a slot width apart are the same slot
    have hle : p.offset ≤ q.offset := Nat.le_of_lt_add_of_dvd (by omega) hpslot hqslot
    have hge : q.offset ≤ p.offset := Nat.le_of_lt_add_of_dvd (by omega) hqslot hpslot
    rcases hpq with h | h <;> omega
  have hbound : ∀ p ∈ set.aliveAt position,
      p.offset + set.alignment.up size ≤ set.layout.size - size + set.alignment.up size := by
    intro p hp
    have hend := (hends p hp).2.2
    omega
  have hsum := Placement.sum_width_le hapart hbound
  rw [List.map_const', List.sum_replicate_nat] at hsum
  obtain ⟨p, hp⟩ := List.exists_mem_of_length_pos hsome
  have hend := (hends p hp).2.2
  omega

/-- The region of a set of buffers of one size. -/
theorem size_of_equal_sizes (hmost : IsGreatest (Set.range (Transient.crowd set.buffers)) most)
    (hsome : set.buffers ≠ []) : set.layout.size = (most - 1) * set.alignment.up size + size := by
  have hlargest : ∀ position, Transient.crowd set.buffers position ≤ most :=
    fun position => hmost.2 (Set.mem_range_self position)
  obtain ⟨position, hposition⟩ := hmost.1
  obtain ⟨t, ht⟩ := List.exists_mem_of_ne_nil _ hsome
  have hone : 1 ≤ most := by
    obtain ⟨p, hp, hbuffer⟩ := exists_placement ht
    obtain ⟨first, last, h⟩ := List.append_of_mem hp
    have hcrowd := valid.alive_lt_crowd h
    have hle := hlargest p.buffer.start
    omega
  apply Nat.le_antisymm
  · apply layout_size_le
    intro p hp
    have hoffset := valid.offset_le_crowd hpos hsize hlargest p hp
    have hpsize := hsize p.buffer (mem_buffers_of_mem_placements hp)
    rw [Placement.stop, hpsize]
    omega
  · have hmul := valid.crowd_mul_le hpos hsize position (by omega)
    have hsplit : (most - 1) * set.alignment.up size + set.alignment.up size =
        most * set.alignment.up size := by
      rw [← Nat.succ_mul, Nat.succ_eq_add_one, Nat.sub_add_cancel hone]
    rw [hposition] at hmul
    omega

end EqualSizes
end Valid

/-- Whatever is offered, if the accepted buffers are all of one size, first fit needs as many slots of the
rounded size as there are buffers alive at the most crowded position, and no more. -/
theorem layout_of_equal_sizes (alignment : Alignment) (offered : List Transient) {size : Nat}
    (hpos : 1 ≤ size) (hsome : accepted { alignment } offered ≠ [])
    (hsize : ∀ t ∈ accepted { alignment } offered, t.size = size) :
    let layout := (offerAll { alignment } offered).layout
    let kept := accepted { alignment } offered
    let slot := (size + (alignment.bytes - 1)) / alignment.bytes * alignment.bytes
    ∃ most, IsGreatest (Set.range (Transient.crowd kept)) most ∧
      layout.size = (most - 1) * slot + size ∧
      ∀ t ∈ kept, ∃ offset, layout.offset? t.id = some offset ∧ slot ∣ offset ∧
        offset ≤ (most - 1) * slot := by
  intro layout kept slot
  have hlayout : layout = TransientSet.layout { alignment, buffers := kept } :=
    congrArg TransientSet.layout (offerAll_new alignment offered)
  have valid : Valid { alignment, buffers := kept } := valid_accepted alignment offered
  have hslot : alignment.up size = slot := by
    obtain ⟨t, ht⟩ := List.exists_mem_of_ne_nil _ hsome
    have hfits := valid.sizes t ht
    rw [hsize t ht] at hfits
    exact Alignment.up_eq hfits
  obtain ⟨most, hmost⟩ := Transient.exists_isGreatest_crowd kept
  have hregion := valid.size_of_equal_sizes hpos hsize hmost hsome
  rw [hlayout, ← hslot]
  refine ⟨most, hmost, hregion, ?_⟩
  intro t ht
  have hmem : t ∈ TransientSet.buffers { alignment, buffers := kept } := ht
  obtain ⟨p, hp, hbuffer⟩ := exists_placement hmem
  have hoffset := valid.offset?_placement hp
  rw [hbuffer] at hoffset
  refine ⟨p.offset, hoffset, valid.dvd_offset hpos hsize p hp, ?_⟩
  exact valid.offset_le_crowd hpos hsize (fun position => hmost.2 (Set.mem_range_self position)) p hp

/-- A chain of buffers, each alive together with the next one; a second buffer 1 is refused. -/
def chainOffers : List Transient :=
  [⟨⟨0⟩, 0, 1, 20⟩, ⟨⟨1⟩, 1, 2, 20⟩, ⟨⟨1⟩, 0, 5, 7⟩, ⟨⟨2⟩, 2, 3, 20⟩]

/-- At a multiple of 64 bytes the chain needs two slots. -/
theorem layout_of_equal_sizes_chainOffers :
    accepted { alignment := ⟨64, by decide, by decide⟩ } chainOffers =
        [⟨⟨0⟩, 0, 1, 20⟩, ⟨⟨1⟩, 1, 2, 20⟩, ⟨⟨2⟩, 2, 3, 20⟩] ∧
      (offerAll { alignment := ⟨64, by decide, by decide⟩ } chainOffers).layout.size = 1 * 64 + 20 := by
  have haccepted : accepted { alignment := ⟨64, by decide, by decide⟩ } chainOffers =
      [⟨⟨0⟩, 0, 1, 20⟩, ⟨⟨1⟩, 1, 2, 20⟩, ⟨⟨2⟩, 2, 3, 20⟩] := by
    decide +kernel
  refine ⟨haccepted, ?_⟩
  obtain ⟨most, hmost, hregion, -⟩ :=
    layout_of_equal_sizes ⟨64, by decide, by decide⟩ chainOffers (show 1 ≤ 20 by decide)
      (by rw [haccepted]; decide) (by rw [haccepted]; decide)
  rw [haccepted] at hmost
  have hcrowd : ∀ position, Transient.crowd
      [⟨⟨0⟩, 0, 1, 20⟩, ⟨⟨1⟩, 1, 2, 20⟩, ⟨⟨2⟩, 2, 3, 20⟩] position ≤ 2 := by
    intro position
    simp only [Transient.crowd, List.countP_cons, List.countP_nil, Transient.aliveAt, Bool.and_eq_true,
      decide_eq_true_eq]
    split_ifs <;> omega
  have htwo : most = 2 := by
    obtain ⟨position, hposition⟩ := hmost.1
    have hle := hcrowd position
    have hge : 2 ≤ most := hmost.2 ⟨1, by decide⟩
    omega
  rw [hregion, htwo]
  decide

end TransientSet
end MemoryPlan
