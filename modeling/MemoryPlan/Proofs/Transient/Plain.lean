import Mathlib.Algebra.Order.BigOperators.Group.List
import Mathlib.Algebra.Order.Ring.Nat
import Mathlib.Order.Bounds.Basic
import Mathlib.Order.Nat
import MemoryPlan.Proofs.Transient.Offered
/-!
# Plain first fit

Plain first fit never retires anything: each buffer goes to the least aligned offset at which it shares no
byte with any earlier placement that is alive when the buffer starts. The search for a place looks at the
live placements only, by ascending offset, and passes each of them once. It finds the same offsets: what the
search passes ends behind every lower free offset, and what was retired is not alive. Empty buffers share no
byte with anything and lie at offset zero, where they stand in nobody's way.
-/

namespace MemoryPlan

namespace Transient

/-- The order of placement: an earlier start, or the same start and a lower buffer. -/
def Precedes (t u : Transient) : Prop :=
  t.start < u.start ∨ t.start = u.start ∧ t.id.index < u.id.index

end Transient

namespace Placement

/-- Some byte belongs to both placements. -/
def Meets (p q : Placement) : Prop :=
  ∃ byte, (p.offset ≤ byte ∧ byte < p.stop) ∧ q.offset ≤ byte ∧ byte < q.stop

/-- Two placements meet if they have a byte in common. -/
theorem meets_iff {p q : Placement} : Meets p q ↔ max p.offset q.offset < min p.stop q.stop := by
  constructor
  · intro h
    obtain ⟨byte, hp, hq⟩ := h
    omega
  · intro h
    exact ⟨max p.offset q.offset, by omega, by omega⟩

instance (p q : Placement) : Decidable (Meets p q) := decidable_of_iff _ meets_iff.symm

/-- A free offset for a buffer: a multiple of the alignment at which the buffer meets none of the earlier
placements that are alive when it starts. -/
def Free (alignment : Alignment) (earlier : List Placement) (t : Transient) (offset : Nat) : Prop :=
  alignment.bytes ∣ offset ∧ ∀ p ∈ earlier, p.buffer.aliveAt t.start = true → ¬Meets p ⟨t, offset⟩

instance (alignment : Alignment) (earlier : List Placement) (t : Transient) :
    DecidablePred (Free alignment earlier t) := fun _ => instDecidableAnd

/-- Behind all placements there is always a free offset. -/
theorem exists_free (alignment : Alignment) (earlier : List Placement) (t : Transient) :
    ∃ offset, Free alignment earlier t offset := by
  have hb := alignment.bytes_pos
  refine ⟨alignment.bytes * (earlier.map stop).sum, Nat.dvd_mul_right _ _, ?_⟩
  intro p hp _ hmeets
  obtain ⟨byte, hfirst, hsecond⟩ := hmeets
  have hsum : p.stop ≤ (earlier.map stop).sum := List.le_sum_of_mem (List.mem_map_of_mem hp)
  have hmul : (earlier.map stop).sum ≤ alignment.bytes * (earlier.map stop).sum := Nat.le_mul_of_pos_left _ hb
  have hge : alignment.bytes * (earlier.map stop).sum ≤ byte := hsecond.1
  omega

/-- The least free offset for a buffer. -/
def leastFree (alignment : Alignment) (earlier : List Placement) (t : Transient) : Nat :=
  Nat.find (exists_free alignment earlier t)

/-- Plain first fit: each buffer goes to the least free offset beside all placements in front of it. -/
def placePlainly (alignment : Alignment) (visited : List Transient) : List Placement :=
  visited.foldl (fun earlier t => earlier ++ [⟨t, leastFree alignment earlier t⟩]) []

/-- The last buffer gets the least free offset beside all others. -/
theorem placePlainly_concat (alignment : Alignment) (visited : List Transient) (t : Transient) :
    placePlainly alignment (visited ++ [t]) =
      placePlainly alignment visited ++ [⟨t, leastFree alignment (placePlainly alignment visited) t⟩] :=
  List.foldl_concat _ _ _ _

variable {alignment : Alignment} {candidate offset : Nat} {live earlier : List Placement} {p : Placement}
  {t : Transient}

/-- An empty buffer lies at the start of the region. -/
theorem firstFit_of_empty (alignment : Alignment) (live : List Placement) :
    firstFit alignment 0 0 live = 0 := by
  cases live with
  | nil => rfl
  | cons p rest => exact if_pos (Nat.zero_le p.offset)

/-- The search for a place never goes beyond a free offset. -/
theorem firstFit_le_of_free (hfit : ∀ q ∈ live, q.stop + alignment.bytes ≤ Word.limit)
    (hempty : ∀ q ∈ live, q.buffer.size = 0 → q.offset = 0) (hpos : 0 < t.size)
    (hd : alignment.bytes ∣ offset) (hfree : ∀ q ∈ live, ¬Meets q ⟨t, offset⟩) (hc : candidate ≤ offset) :
    firstFit alignment t.size candidate live ≤ offset := by
  induction live generalizing candidate with
  | nil => exact hc
  | cons q rest ih =>
    unfold firstFit
    split
    · exact hc
    · next hnostop =>
      -- if `q` did not end at or before `offset`, the buffer would meet it there
      have hbehind : q.stop ≤ offset := by
        by_contra hlt
        have hstart := hempty q List.mem_cons_self
        have hstop : q.stop = q.offset + q.buffer.size := rfl
        have hmeets : Meets q ⟨t, offset⟩ := by
          refine ⟨max q.offset offset, by omega, ?_⟩
          change offset ≤ max q.offset offset ∧ max q.offset offset < offset + t.size
          omega
        exact hfree q List.mem_cons_self hmeets
      have hup : alignment.up q.stop ≤ offset := Alignment.up_le (hfit q List.mem_cons_self) hd hbehind
      exact ih (fun r hr => hfit r (List.mem_cons_of_mem _ hr))
        (fun r hr => hempty r (List.mem_cons_of_mem _ hr))
        (fun r hr => hfree r (List.mem_cons_of_mem _ hr)) (max_le hc hup)

/-- A place that was found among the live placements is the least free one beside all earlier ones. -/
theorem Chosen.isLeast (hchosen : Chosen alignment earlier p)
    (hfit : ∀ q ∈ earlier, q.stop + alignment.bytes ≤ Word.limit)
    (hempty : ∀ q ∈ earlier, q.buffer.size = 0 → q.offset = 0) :
    IsLeast {offset | Free alignment earlier p.buffer offset} p.offset := by
  obtain ⟨alive, hperm, hsorted, hoffset⟩ := hchosen
  have hmem : ∀ q, q ∈ alive ↔ q ∈ earlier ∧ q.buffer.aliveAt p.buffer.start = true := by
    intro q
    rw [hperm.mem_iff, List.mem_filter]
  have hfits : ∀ q ∈ alive, q.stop + alignment.bytes ≤ Word.limit := fun q hq => hfit q ((hmem q).mp hq).1
  constructor
  · have hd : alignment.bytes ∣ p.offset := by
      rw [hoffset]
      exact dvd_firstFit hfits (Nat.dvd_zero _)
    refine ⟨hd, ?_⟩
    intro q hq halive hmeets
    have hapart : q.stop ≤ p.offset ∨ p.offset + p.buffer.size ≤ q.offset := by
      rw [hoffset]
      exact firstFit_apart hsorted hfits q ((hmem q).mpr ⟨hq, halive⟩)
    obtain ⟨byte, hfirst, hsecond⟩ := hmeets
    have hstart : p.offset ≤ byte := hsecond.1
    have hstop : byte < p.offset + p.buffer.size := hsecond.2
    omega
  · intro offset hfree
    rw [hoffset]
    rcases Nat.eq_zero_or_pos p.buffer.size with hzero | hpos
    · rw [hzero, firstFit_of_empty]
      exact Nat.zero_le offset
    · apply firstFit_le_of_free hfits _ hpos hfree.1 _ (Nat.zero_le offset)
      · exact fun q hq => hempty q ((hmem q).mp hq).1
      · exact fun q hq => hfree.2 q ((hmem q).mp hq).1 ((hmem q).mp hq).2

end Placement

namespace TransientSet

variable {set : TransientSet}

/-- The size of a layout is the highest end of a placement. -/
theorem layout_size_eq (set : TransientSet) :
    set.layout.size = (set.placements.map Placement.stop).max?.getD 0 := by
  change (set.placements.map Placement.stop).foldl max 0 = _
  cases set.placements.map Placement.stop with
  | nil => rfl
  | cons stop rest => rw [List.foldl_cons, Nat.zero_max, List.max?_cons', Option.getD_some]

/-- Empty buffers lie at the start of the region. -/
theorem offset_of_empty {p : Placement} (hp : p ∈ set.placements) (hzero : p.buffer.size = 0) :
    p.offset = 0 := by
  obtain ⟨first, last, hsplit⟩ := List.append_of_mem hp
  obtain ⟨alive, -, -, hoffset⟩ := chosen hsplit
  rw [hoffset, hzero, Placement.firstFit_of_empty]

namespace Valid

variable (valid : Valid set)

include valid

/-- The buffers are placed by their starts, and by their numbers where these agree. -/
theorem ordered_precedes : set.ordered.Pairwise Transient.Precedes := by
  have hids : (set.ordered.map Transient.id).Nodup :=
    (set.ordered_perm.map _).nodup_iff.mpr valid.distinct
  have hne : set.ordered.Pairwise fun t u => t.id ≠ u.id := List.pairwise_map.mp hids
  apply List.Pairwise.imp _ (set.ordered_before.and hne)
  intro t u h
  have hbefore := h.1
  have hindex : t.id.index ≠ u.id.index := fun he => h.2 (congrArg BufferId.mk he)
  simp only [Transient.before, Bool.or_eq_true, Bool.and_eq_true, decide_eq_true_eq, beq_iff_eq] at hbefore
  unfold Transient.Precedes
  omega

/-- Every buffer lies at the least offset that is free beside all placements in front of it. -/
theorem isLeast_free {first last : List Placement} {p : Placement} (h : set.placements = first ++ p :: last) :
    IsLeast {offset | Placement.Free set.alignment first p.buffer offset} p.offset := by
  obtain ⟨-, hmem⟩ := mem_of_split h
  apply (chosen h).isLeast
  · intro q hq
    exact Nat.le_of_lt (valid.stop_fits (hmem q hq))
  · intro q hq
    exact offset_of_empty (hmem q hq)

/-- The placements of a valid set are those of plain first fit. -/
theorem placements_eq_plain : set.placements = Placement.placePlainly set.alignment set.ordered := by
  have hall : set.placements =
      Placement.placePlainly set.alignment (set.placements.map Placement.buffer) := by
    apply set.placements_induction
      (motive := fun first => first = Placement.placePlainly set.alignment (first.map Placement.buffer)) rfl
    intro first p last h hfirst
    have hleast : p.offset = Placement.leastFree set.alignment first p.buffer :=
      (valid.isLeast_free h).unique (Nat.isLeast_find _)
    rw [List.map_append, List.map_singleton, Placement.placePlainly_concat, ← hfirst, ← hleast]
  rw [map_buffer_placements] at hall
  exact hall

end Valid

/-- Whatever is offered, each accepted buffer lies where plain first fit puts it, which visits the buffers by
the start of their lifespans and looks for the least offset that is free beside all earlier buffers alive at
that position; the region ends where the last of them does. -/
theorem layout_eq_plain (alignment : Alignment) (offered : List Transient) :
    let layout := (offerAll { alignment } offered).layout
    let kept := accepted { alignment } offered
    ∃ visited : List Transient, visited.Perm kept ∧ visited.Pairwise Transient.Precedes ∧
      let plain := Placement.placePlainly alignment visited
      plain.map Placement.buffer = visited ∧
        (∀ p ∈ plain, layout.offset? p.buffer.id = some p.offset) ∧
        (∀ first p last, plain = first ++ p :: last →
          IsLeast {offset | Placement.Free alignment first p.buffer offset} p.offset) ∧
        layout.size = (plain.map Placement.stop).max?.getD 0 := by
  intro layout kept
  have hlayout : layout = TransientSet.layout { alignment, buffers := kept } :=
    congrArg TransientSet.layout (offerAll_new alignment offered)
  have valid : Valid { alignment, buffers := kept } := valid_accepted alignment offered
  refine ⟨TransientSet.ordered { alignment, buffers := kept }, ordered_perm _, valid.ordered_precedes, ?_⟩
  rw [hlayout, ← valid.placements_eq_plain]
  refine ⟨map_buffer_placements _, ?_, ?_, layout_size_eq _⟩
  · intro p hp
    exact valid.offset?_placement hp
  · intro first p last h
    exact valid.isLeast_free h

/-- The empty buffer lies at the start; the last one goes into the gap that the first one left. -/
example : Placement.placePlainly .byte
      [⟨⟨0⟩, 0, 1, 4⟩, ⟨⟨1⟩, 0, 5, 2⟩, ⟨⟨2⟩, 2, 3, 0⟩, ⟨⟨3⟩, 2, 5, 3⟩] =
    [⟨⟨⟨0⟩, 0, 1, 4⟩, 0⟩, ⟨⟨⟨1⟩, 0, 5, 2⟩, 4⟩, ⟨⟨⟨2⟩, 2, 3, 0⟩, 0⟩, ⟨⟨⟨3⟩, 2, 5, 3⟩, 0⟩] := by
  decide +kernel

end TransientSet
end MemoryPlan
