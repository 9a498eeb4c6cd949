import Mathlib.Data.List.Basic
import Mathlib.Order.MinMax
import MemoryPlan.Transient
import MemoryPlan.Proofs.Rounding
/-!
# First fit

The search for a place walks over the live placements by ascending offset. It needs no more of them than
that order: whatever it passes ends at or before the place found, and whatever it stops at starts behind
it. Placing a whole sequence of buffers keeps the order and the word range, so that two buffers of the
sequence share no bytes while both are alive. Retiring placements on the way does not change what a search
goes over: all earlier placements that are alive when the buffer starts.
-/

namespace MemoryPlan.Placement

/-- By ascending offset. -/
def Sorted (live : List Placement) : Prop := live.Pairwise fun p q => p.offset ≤ q.offset

/-- One of the two ends at or before the other one starts. -/
def Apart (p q : Placement) : Prop := p.stop ≤ q.offset ∨ q.stop ≤ p.offset

variable {alignment : Alignment} {size candidate bound : Nat} {live : List Placement}

/-- A buffer that is placed keeps the order of the offsets. -/
theorem Sorted.insertByOffset {new : Placement} (hs : Sorted live) :
    Sorted (insertByOffset new live) := by
  induction live with
  | nil => exact List.pairwise_singleton _ _
  | cons p rest ih =>
    obtain ⟨hp, hr⟩ := List.pairwise_cons.mp hs
    unfold Placement.insertByOffset
    split
    · next hle =>
      apply List.pairwise_cons.mpr
      refine ⟨?_, ih hr⟩
      intro q hq
      rcases mem_insertByOffset.mp hq with rfl | hq
      · exact hle
      · exact hp q hq
    · next hlt =>
      apply List.pairwise_cons.mpr
      refine ⟨?_, hs⟩
      intro q hq
      rcases List.mem_cons.mp hq with rfl | hq
      · omega
      · have h := hp q hq
        omega

/-- A buffer that is placed joins the others. -/
theorem insertByOffset_perm (new : Placement) (live : List Placement) :
    (insertByOffset new live).Perm (new :: live) := by
  induction live with
  | nil => exact List.Perm.refl _
  | cons p rest ih =>
    unfold Placement.insertByOffset
    split
    · have hrest : (p :: insertByOffset new rest).Perm (p :: new :: rest) := ih.cons p
      exact hrest.trans (List.Perm.swap new p rest)
    · exact List.Perm.refl _

/-- The search never goes back. -/
theorem le_firstFit : candidate ≤ firstFit alignment size candidate live := by
  induction live generalizing candidate with
  | nil => exact le_refl candidate
  | cons p rest ih =>
    unfold firstFit
    split
    · exact le_refl candidate
    · exact le_trans (Nat.le_max_left _ _) ih

/-- What the search passes ends at or before the place found, and what stops it starts behind the place. -/
theorem firstFit_apart (hs : Sorted live)
    (hfit : ∀ p ∈ live, p.stop + alignment.bytes ≤ Word.limit) :
    ∀ p ∈ live, p.stop ≤ firstFit alignment size candidate live ∨
      firstFit alignment size candidate live + size ≤ p.offset := by
  induction live generalizing candidate with
  | nil => intro p hp; cases hp
  | cons q rest ih =>
    obtain ⟨hq, hr⟩ := List.pairwise_cons.mp hs
    intro p hp
    unfold firstFit
    split
    · next hstop =>
      right
      rcases List.mem_cons.mp hp with rfl | hp
      · exact hstop
      · have h := hq p hp
        omega
    · rcases List.mem_cons.mp hp with rfl | hp
      · left
        have hup := Alignment.le_up (hfit p List.mem_cons_self)
        exact le_trans hup (le_trans (Nat.le_max_right _ _) le_firstFit)
      · exact ih hr (fun p hp => hfit p (List.mem_cons_of_mem _ hp)) p hp

/-- The search stays at multiples of the alignment. -/
theorem dvd_firstFit (hfit : ∀ p ∈ live, p.stop + alignment.bytes ≤ Word.limit)
    (hc : alignment.bytes ∣ candidate) : alignment.bytes ∣ firstFit alignment size candidate live := by
  induction live generalizing candidate with
  | nil => exact hc
  | cons q rest ih =>
    have hr : ∀ p ∈ rest, p.stop + alignment.bytes ≤ Word.limit :=
      fun p hp => hfit p (List.mem_cons_of_mem _ hp)
    unfold firstFit
    split
    · exact hc
    · have hd := Alignment.dvd_up (hfit q List.mem_cons_self)
      apply ih hr
      rcases le_total candidate (alignment.up q.stop) with h | h
      · rw [max_eq_right h]; exact hd
      · rw [max_eq_left h]; exact hc

/-- The place found lies at or before any multiple of the alignment that bounds all live placements. -/
theorem firstFit_le (hb : alignment.bytes ∣ bound) (hbound : bound + alignment.bytes ≤ Word.limit)
    (hstop : ∀ p ∈ live, p.stop ≤ bound) (hc : candidate ≤ bound) :
    firstFit alignment size candidate live ≤ bound := by
  induction live generalizing candidate with
  | nil => exact hc
  | cons q rest ih =>
    have hq : q.stop ≤ bound := hstop q List.mem_cons_self
    have hup : alignment.up q.stop ≤ bound := Alignment.up_le (by omega) hb hq
    unfold firstFit
    split
    · exact hc
    · exact ih (fun p hp => hstop p (List.mem_cons_of_mem _ hp)) (max_le hc hup)

/-- The sum of the sizes, each rounded up to the alignment. -/
def roundedSize (alignment : Alignment) (buffers : List Transient) : Nat :=
  (buffers.map fun t => alignment.up t.size).foldr (· + ·) 0

theorem roundedSize_cons (alignment : Alignment) (t : Transient) (rest : List Transient) :
    roundedSize alignment (t :: rest) = alignment.up t.size + roundedSize alignment rest := rfl

theorem roundedSize_append (alignment : Alignment) (first second : List Transient) :
    roundedSize alignment (first ++ second) = roundedSize alignment first + roundedSize alignment second := by
  induction first with
  | nil => exact (Nat.zero_add _).symm
  | cons t rest ih => rw [List.cons_append, roundedSize_cons, roundedSize_cons, ih, Nat.add_assoc]

/-- What is known when a sequence of buffers is about to be placed beside live placements, all of which
end at or before `bound`: with the rounded sizes of the sequence, nothing leaves the word range. -/
structure Room (alignment : Alignment) (bound : Nat) (live : List Placement)
    (buffers : List Transient) : Prop where
  /-- The live placements are by ascending offset. -/
  sorted : Sorted live
  /-- The bound is a multiple of the alignment. -/
  aligned : alignment.bytes ∣ bound
  /-- Every live placement ends at or before the bound. -/
  bounded : ∀ p ∈ live, p.stop ≤ bound
  /-- Each size can be rounded. -/
  sizes : ∀ t ∈ buffers, t.size + alignment.bytes ≤ Word.limit
  /-- All sizes together can be placed behind the bound. -/
  total : bound + roundedSize alignment buffers + alignment.bytes ≤ Word.limit

section Step

variable {t : Transient} {rest : List Transient}

/-- The placements that are still alive when a buffer starts. -/
abbrev aliveAt (live : List Placement) (t : Transient) : List Placement :=
  live.filter fun p => t.start ≤ p.buffer.finish

/-- The place of a buffer beside the placements that are still alive. -/
abbrev placed (alignment : Alignment) (live : List Placement) (t : Transient) : Placement :=
  ⟨t, firstFit alignment t.size 0 (aliveAt live t)⟩

variable (room : Room alignment bound live (t :: rest))

include room

/-- Behind each buffer that is alive there is room for one alignment. -/
theorem Room.alive_fits {p : Placement} (hp : p ∈ aliveAt live t) :
    p.stop + alignment.bytes ≤ Word.limit := by
  have h := room.bounded p (List.mem_of_mem_filter hp)
  have ht := room.total
  omega

/-- A buffer ends no further than its rounded size behind the bound. -/
theorem Room.placed_stop_le : (placed alignment live t).stop ≤ bound + alignment.up t.size := by
  have ht := room.total
  have hsize := Alignment.le_up (room.sizes t List.mem_cons_self)
  have hle : firstFit alignment t.size 0 (aliveAt live t) ≤ bound :=
    firstFit_le room.aligned (by omega) (fun p hp => room.bounded p (List.mem_of_mem_filter hp))
      (Nat.zero_le _)
  unfold stop
  dsimp only [placed]
  omega

/-- A buffer is placed at a multiple of the alignment. -/
theorem Room.dvd_placed : alignment.bytes ∣ (placed alignment live t).offset :=
  dvd_firstFit (fun _ hp => room.alive_fits hp) (Nat.dvd_zero _)

/-- A buffer is placed apart from those that are alive. -/
theorem Room.apart_placed {p : Placement} (hp : p ∈ aliveAt live t) :
    Apart p (placed alignment live t) :=
  firstFit_apart (List.Pairwise.filter _ room.sorted) (fun _ hq => room.alive_fits hq) p hp

/-- Placing one buffer leaves room for the others, behind a bound that has grown by its rounded size. -/
theorem Room.next : Room alignment (bound + alignment.up t.size)
    (Placement.insertByOffset (placed alignment live t) (aliveAt live t)) rest := by
  refine ⟨?_, ?_, ?_, ?_, ?_⟩
  · exact Sorted.insertByOffset (List.Pairwise.filter _ room.sorted)
  · exact Nat.dvd_add room.aligned (Alignment.dvd_up (room.sizes t List.mem_cons_self))
  · intro p hp
    rcases mem_insertByOffset.mp hp with rfl | hp
    · exact room.placed_stop_le
    · have h := room.bounded p (List.mem_of_mem_filter hp)
      omega
  · intro u hu
    exact room.sizes u (List.mem_cons_of_mem _ hu)
  · have ht := room.total
    rw [roundedSize_cons] at ht
    omega

end Step

variable {buffers : List Transient}

/-- Every placement of the sequence is aligned and ends at or before the grown bound. -/
theorem Room.place_fits (room : Room alignment bound live buffers) :
    ∀ p ∈ place alignment live buffers,
      alignment.bytes ∣ p.offset ∧ p.stop ≤ bound + roundedSize alignment buffers := by
  induction buffers generalizing live bound with
  | nil => intro p hp; cases hp
  | cons t rest ih =>
    intro p hp
    rw [roundedSize_cons]
    rcases List.mem_cons.mp hp with rfl | hp
    · have h : (placed alignment live t).stop ≤ bound + alignment.up t.size := room.placed_stop_le
      refine ⟨room.dvd_placed, le_trans h ?_⟩
      omega
    · have h := ih room.next p hp
      exact ⟨h.1, by omega⟩

/-- A live placement keeps its bytes until its lifespan is over: every buffer that starts before that is
placed apart from it. -/
theorem Room.place_apart_live (room : Room alignment bound live buffers)
    (hstart : buffers.Pairwise fun t u => t.start ≤ u.start) {p : Placement} (hp : p ∈ live) :
    ∀ q ∈ place alignment live buffers, q.buffer.start ≤ p.buffer.finish → Apart p q := by
  induction buffers generalizing live bound with
  | nil => intro q hq; cases hq
  | cons t rest ih =>
    obtain ⟨hfirst, hrest⟩ := List.pairwise_cons.mp hstart
    intro q hq halive
    rcases List.mem_cons.mp hq with rfl | hq
    · exact room.apart_placed (List.mem_filter.mpr ⟨hp, by simpa using halive⟩)
    · -- `p` is still alive at `t`, since `q` starts no earlier
      have hbuffer : q.buffer ∈ rest := by
        rw [← map_buffer_place alignment _ rest]
        exact List.mem_map_of_mem hq
      have hle := hfirst q.buffer hbuffer
      have hkept : p ∈ aliveAt live t :=
        List.mem_filter.mpr ⟨hp, by simpa using le_trans hle halive⟩
      exact ih room.next hrest (mem_insertByOffset.mpr (Or.inr hkept)) q hq halive

/-- Of two buffers of the sequence, the later one is placed apart from the earlier one if that is still
alive when the later one starts. -/
theorem Room.place_pairwise (room : Room alignment bound live buffers)
    (hstart : buffers.Pairwise fun t u => t.start ≤ u.start) :
    (place alignment live buffers).Pairwise fun p q => q.buffer.start ≤ p.buffer.finish → Apart p q := by
  induction buffers generalizing live bound with
  | nil => exact List.Pairwise.nil
  | cons t rest ih =>
    obtain ⟨-, hrest⟩ := List.pairwise_cons.mp hstart
    apply List.pairwise_cons.mpr
    refine ⟨?_, ih room.next hrest⟩
    exact room.next.place_apart_live hrest (mem_insertByOffset.mpr (Or.inl rfl))

/-- The live placements are what the earlier ones come to at each buffer that is still to be placed: those
that are alive when the buffer starts. -/
def Remains (live earlier : List Placement) (buffers : List Transient) : Prop :=
  ∀ t ∈ buffers, (aliveAt live t).Perm (earlier.filter fun p => p.buffer.aliveAt t.start)

/-- How a place was found: the search went over those earlier placements that are alive when the buffer
starts, by ascending offset. -/
def Chosen (alignment : Alignment) (earlier : List Placement) (p : Placement) : Prop :=
  ∃ alive : List Placement, alive.Perm (earlier.filter fun q => q.buffer.aliveAt p.buffer.start) ∧
    Sorted alive ∧ p.offset = firstFit alignment p.buffer.size 0 alive

variable {earlier : List Placement}

/-- What was retired when a buffer started is of no interest to the buffers behind it, which start no
earlier. -/
theorem Remains.next {t : Transient} {rest : List Transient} (hremains : Remains live earlier (t :: rest))
    (hfirst : ∀ u ∈ rest, t.start ≤ u.start) :
    Remains (Placement.insertByOffset (placed alignment live t) (aliveAt live t))
      (earlier ++ [placed alignment live t]) rest := by
  intro u hu
  have hle : t.start ≤ u.start := hfirst u hu
  have hold : (aliveAt live u).Perm (earlier.filter fun p => p.buffer.aliveAt u.start) :=
    hremains u (List.mem_cons_of_mem _ hu)
  have htwice : (aliveAt live t).filter (fun p => decide (u.start ≤ p.buffer.finish)) = aliveAt live u := by
    rw [List.filter_filter]
    apply List.filter_congr
    intro p _
    rw [← Bool.decide_and]
    apply decide_eq_decide.mpr
    omega
  have hsame : (placed alignment live t).buffer.aliveAt u.start = decide (u.start ≤ t.finish) := by
    simp [Transient.aliveAt, hle]
  have hnew : (placed alignment live t :: aliveAt live t).filter (fun p => decide (u.start ≤ p.buffer.finish)) =
      [placed alignment live t].filter (fun p => p.buffer.aliveAt u.start) ++ aliveAt live u := by
    rw [List.filter_cons, List.filter_singleton, htwice, hsame]
    by_cases h : u.start ≤ t.finish <;> simp [h]
  have hinsert := (insertByOffset_perm (placed alignment live t) (aliveAt live t)).filter
    fun p => decide (u.start ≤ p.buffer.finish)
  rw [List.filter_append]
  exact (hinsert.trans (List.Perm.of_eq hnew)).trans ((hold.append_left _).trans List.perm_append_comm)

/-- Every place in the sequence was found among all placements in front of it, whatever was retired
meanwhile. -/
theorem place_chosen (hsorted : Sorted live) (hremains : Remains live earlier buffers)
    (hstart : buffers.Pairwise fun t u => t.start ≤ u.start) {first last : List Placement} {p : Placement}
    (h : place alignment live buffers = first ++ p :: last) : Chosen alignment (earlier ++ first) p := by
  induction buffers generalizing live earlier first with
  | nil =>
    have hnil : first ++ p :: last = [] := h.symm
    simp at hnil
  | cons t rest ih =>
    obtain ⟨hfirst, hrest⟩ := List.pairwise_cons.mp hstart
    have hcons : placed alignment live t ::
        place alignment (Placement.insertByOffset (placed alignment live t) (aliveAt live t)) rest =
          first ++ p :: last := h
    cases first with
    | nil =>
      obtain ⟨hp, -⟩ := List.cons.inj hcons
      rw [← hp, List.append_nil]
      exact ⟨aliveAt live t, hremains t List.mem_cons_self, List.Pairwise.filter _ hsorted, rfl⟩
    | cons q first =>
      obtain ⟨hq, htail⟩ := List.cons.inj hcons
      have hchosen := ih (Sorted.insertByOffset (List.Pairwise.filter _ hsorted)) (hremains.next hfirst)
        hrest htail
      rw [hq, List.append_assoc] at hchosen
      exact hchosen

end MemoryPlan.Placement
