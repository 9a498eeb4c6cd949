import Mathlib.Algebra.Order.BigOperators.Group.List
import Mathlib.Algebra.Order.Ring.Nat
import Mathlib.Order.Interval.Finset.Nat
import MemoryPlan.Proofs.Transient.Offered
/-!
# The size of a layout

Placements that are alive at one position lie apart, so that the region is at least as large as their sizes
together: bytes are counted once, in a finite set. In the other direction, placing a buffer moves the
highest end by no more than its rounded size, so that the region is never larger than all rounded sizes
together. Between these two bounds lies what sharing bytes can save.
-/

namespace MemoryPlan

namespace Transient

/-- The sizes of the buffers that are alive at a position, added up. -/
def load (buffers : List Transient) (position : Nat) : Nat :=
  ((buffers.filter fun t => t.aliveAt position).map size).sum

end Transient

namespace Placement

variable {width : Placement → Nat} {placements : List Placement} {bound : Nat}

/-- The first bytes of each placement, as many as its width says. -/
def covered (width : Placement → Nat) : List Placement → Finset Nat
  | [] => ∅
  | p :: rest => Finset.Ico p.offset (p.offset + width p) ∪ covered width rest

/-- The bytes that some placements cover. -/
theorem mem_covered {byte : Nat} :
    byte ∈ covered width placements ↔ ∃ p ∈ placements, p.offset ≤ byte ∧ byte < p.offset + width p := by
  induction placements with
  | nil => simp [covered]
  | cons p rest ih => simp [covered, ih]

/-- Placements that lie apart cover as many bytes as their widths add up to. -/
theorem card_covered
    (hapart : placements.Pairwise fun p q =>
      p.offset + width p ≤ q.offset ∨ q.offset + width q ≤ p.offset) :
    (covered width placements).card = (placements.map width).sum := by
  induction placements with
  | nil => rfl
  | cons p rest ih =>
    obtain ⟨hp, hrest⟩ := List.pairwise_cons.mp hapart
    have hdisjoint : Disjoint (Finset.Ico p.offset (p.offset + width p)) (covered width rest) := by
      apply Finset.disjoint_left.mpr
      intro byte hbyte hother
      have hfirst := Finset.mem_Ico.mp hbyte
      obtain ⟨q, hq, hsecond⟩ := mem_covered.mp hother
      have h := hp q hq
      omega
    have hwidth : p.offset + width p - p.offset = width p := by omega
    rw [covered, Finset.card_union_of_disjoint hdisjoint, Nat.card_Ico, hwidth, ih hrest, List.map_cons,
      List.sum_cons]

/-- Placements that lie apart below a bound are together no wider than the bound. -/
theorem sum_width_le
    (hapart : placements.Pairwise fun p q =>
      p.offset + width p ≤ q.offset ∨ q.offset + width q ≤ p.offset)
    (hbound : ∀ p ∈ placements, p.offset + width p ≤ bound) : (placements.map width).sum ≤ bound := by
  have hsubset : covered width placements ⊆ Finset.range bound := by
    intro byte hbyte
    obtain ⟨p, hp, hinside⟩ := mem_covered.mp hbyte
    have hle := hbound p hp
    apply Finset.mem_range.mpr
    omega
  have hcard := Finset.card_le_card hsubset
  rw [card_covered hapart, Finset.card_range] at hcard
  exact hcard

end Placement

namespace TransientSet

variable {set : TransientSet} {bound : Nat}

/-- The region ends where the last placement ends. -/
theorem layout_size_le (h : ∀ p ∈ set.placements, p.stop ≤ bound) : set.layout.size ≤ bound := by
  apply List.foldlRecOn (motive := fun highest => highest ≤ bound) _ max (Nat.zero_le bound)
  intro highest hhighest stop hstop
  obtain ⟨p, hp, he⟩ := List.mem_map.mp hstop
  have hle := h p hp
  omega

/-- The placements of the buffers that are alive at a position. -/
abbrev aliveAt (set : TransientSet) (position : Nat) : List Placement :=
  set.placements.filter fun p => p.buffer.aliveAt position

/-- They belong to the buffers of the set that are alive there. -/
theorem map_buffer_aliveAt (set : TransientSet) (position : Nat) :
    ((set.aliveAt position).map Placement.buffer).Perm
      (set.buffers.filter fun t => t.aliveAt position) := by
  have hfilter : (set.aliveAt position).map Placement.buffer =
      set.ordered.filter fun t => t.aliveAt position := by
    rw [← map_buffer_placements, List.filter_map]
    rfl
  rw [hfilter]
  exact set.ordered_perm.filter _

namespace Valid

variable (valid : Valid set)

include valid

/-- What is alive at one position lies apart. -/
theorem pairwise_aliveAt (position : Nat) : (set.aliveAt position).Pairwise Placement.Apart := by
  have hpair := valid.room_placements.place_pairwise set.ordered_pairwise
  apply List.Pairwise.imp_of_mem _ (hpair.filter fun p => p.buffer.aliveAt position)
  intro p q hp hq hapart
  have hpalive := List.of_mem_filter hp
  have hqalive := List.of_mem_filter hq
  simp only [Transient.aliveAt, Bool.and_eq_true, decide_eq_true_eq] at hpalive hqalive
  exact hapart (by omega)

/-- What is alive at one position fits into the layout side by side. -/
theorem load_le_size (position : Nat) : Transient.load set.buffers position ≤ set.layout.size := by
  have hload : Transient.load set.buffers position =
      ((set.aliveAt position).map fun p => p.buffer.size).sum := by
    have hperm := ((set.map_buffer_aliveAt position).map Transient.size).sum_eq
    rw [List.map_map] at hperm
    exact hperm.symm
  rw [hload]
  apply Placement.sum_width_le
  · exact valid.pairwise_aliveAt position
  · intro p hp
    exact stop_le_layout_size (List.mem_of_mem_filter hp)

/-- The layout takes no more than the rounded sizes together. -/
theorem size_le_reserved : set.layout.size ≤ set.reserved := by
  have hsum := set.roundedSize_ordered
  apply layout_size_le
  intro p hp
  have hstop := (valid.room_placements.place_fits p hp).2
  omega

/-- The reserved bytes are the sizes, each as the least multiple of the alignment that holds it. -/
theorem reserved_eq :
    set.reserved = (set.buffers.map fun t =>
      (t.size + (set.alignment.bytes - 1)) / set.alignment.bytes * set.alignment.bytes).sum := by
  have hround : (set.buffers.map fun t => set.alignment.up t.size) = set.buffers.map fun t =>
      (t.size + (set.alignment.bytes - 1)) / set.alignment.bytes * set.alignment.bytes := by
    apply List.map_congr_left
    intro t ht
    exact Alignment.up_eq (valid.sizes t ht)
  rw [← hround]
  rfl

/-- The layout is empty exactly if all buffers are. -/
theorem size_eq_zero_iff : set.layout.size = 0 ↔ ∀ t ∈ set.buffers, t.size = 0 := by
  constructor
  · intro hzero t ht
    obtain ⟨p, hp, hbuffer⟩ := exists_placement ht
    have hstop : p.offset + p.buffer.size ≤ set.layout.size := stop_le_layout_size hp
    rw [hbuffer] at hstop
    omega
  · intro hall
    have hreserved : set.reserved = 0 := by
      rw [valid.reserved_eq]
      apply List.sum_eq_zero
      intro rounded hrounded
      obtain ⟨t, ht, he⟩ := List.mem_map.mp hrounded
      have hpos := set.alignment.bytes_pos
      rw [← he, hall t ht, Nat.div_eq_of_lt (by omega), Nat.zero_mul]
    have hsize := valid.size_le_reserved
    omega

end Valid

/-- Whatever is offered, the region is at least as large as the accepted buffers that are alive at any one
position, and at most as large as all of them behind one another, each rounded up. It is empty exactly if
all of them are. -/
theorem layout_size_bounds (alignment : Alignment) (offered : List Transient) :
    let set := offerAll { alignment } offered
    let kept := accepted { alignment } offered
    (∀ position, Transient.load kept position ≤ set.layout.size) ∧
      set.layout.size ≤
        (kept.map fun t => (t.size + (alignment.bytes - 1)) / alignment.bytes * alignment.bytes).sum ∧
      (alignment.bytes = 1 → set.layout.size ≤ set.naiveSize) ∧
      (set.layout.size = 0 ↔ ∀ t ∈ kept, t.size = 0) := by
  intro set kept
  have hset : set = { alignment, buffers := kept } := offerAll_new alignment offered
  have valid : Valid { alignment, buffers := kept } := valid_accepted alignment offered
  have hupper := valid.size_le_reserved
  have hreserved := valid.reserved_eq
  rw [hset]
  refine ⟨valid.load_le_size, ?_, ?_, valid.size_eq_zero_iff⟩
  · rw [← hreserved]
    exact hupper
  · intro hbyte
    have hnaive : TransientSet.reserved { alignment, buffers := kept } =
        TransientSet.naiveSize { alignment, buffers := kept } := by
      rw [hreserved, hbyte]
      simp only [Nat.sub_self, Nat.add_zero, Nat.div_one, Nat.mul_one]
      rfl
    rw [← hnaive]
    exact hupper

end TransientSet
end MemoryPlan
