import Mathlib.Algebra.Order.BigOperators.Group.List
import Mathlib.Algebra.Order.Ring.Nat
import MemoryPlan.Proofs.Transient.Offered
/-!
# Sums of a layout

Placing buffers adds offsets and sizes without checking the sums: where a buffer would end, where a live
placement ends, that end with one alignment more when it is rounded up, and all sizes for the report on
reuse. The functions of this module are the same computations with every sum checked. On accepted buffers
none of the checks ever fails, since all ends stay below the sum of the rounded sizes, which leaves room for
one alignment: the check when a buffer is added is enough for every later layout.
-/

namespace MemoryPlan

namespace Placement

/-- The first offset behind the buffer, unless it leaves the word range. -/
def stop? (p : Placement) : Option Nat := Word.add? p.offset p.buffer.size

/-- `firstFit` with its sums checked. -/
def firstFit? (alignment : Alignment) (size : Nat) : Nat → List Placement → Option Nat
  | candidate, [] => some candidate
  | candidate, p :: rest => do
    let last ← Word.add? candidate size
    if last ≤ p.offset then
      return candidate
    else
      let stop ← p.stop?
      let behind ← alignment.upChecked? stop
      firstFit? alignment size (max candidate behind) rest

/-- `place` with its sums checked. -/
def place? (alignment : Alignment) : List Placement → List Transient → Option (List Placement)
  | _, [] => some []
  | live, t :: rest => do
    let alive := live.filter fun p => t.start ≤ p.buffer.finish
    let offset ← firstFit? alignment t.size 0 alive
    let placed : Placement := ⟨t, offset⟩
    let _ ← placed.stop?
    let others ← place? alignment (insertByOffset placed alive) rest
    return placed :: others

variable {alignment : Alignment} {size candidate bound : Nat} {live : List Placement}

/-- Below a bound that leaves room for the size and one alignment, the search needs no checks. -/
theorem firstFit?_eq (hd : alignment.bytes ∣ bound) (hroom : bound + size + alignment.bytes < Word.limit)
    (hstop : ∀ p ∈ live, p.stop ≤ bound) (hc : candidate ≤ bound) :
    firstFit? alignment size candidate live = some (firstFit alignment size candidate live) := by
  induction live generalizing candidate with
  | nil => rfl
  | cons p rest ih =>
    have hle : p.stop ≤ bound := hstop p List.mem_cons_self
    have hlast : Word.add? candidate size = some (candidate + size) :=
      Word.add?_eq_some.mpr ⟨by omega, rfl⟩
    have hend : p.stop? = some p.stop := by
      have hsum : p.offset + p.buffer.size = p.stop := rfl
      exact Word.add?_eq_some.mpr ⟨by omega, rfl⟩
    have hbehind : alignment.upChecked? p.stop = some (alignment.up p.stop) :=
      Word.alignUpChecked?_eq_some.mpr ⟨by omega, rfl⟩
    have hup : alignment.up p.stop ≤ bound := Alignment.up_le (by omega) hd hle
    have hrest := ih (fun q hq => hstop q (List.mem_cons_of_mem _ hq)) (max_le hc hup)
    simp only [firstFit?, firstFit, hlast, hend, hbehind, hrest, Option.bind_eq_bind, Option.bind_some]
    split <;> rfl

variable {buffers : List Transient}

/-- As long as the rounded sizes leave room for one alignment, placing needs no checks. -/
theorem Room.place?_eq (room : Room alignment bound live buffers)
    (hroom : bound + roundedSize alignment buffers + alignment.bytes < Word.limit) :
    place? alignment live buffers = some (place alignment live buffers) := by
  induction buffers generalizing live bound with
  | nil => rfl
  | cons t rest ih =>
    rw [roundedSize_cons] at hroom
    have hsize : t.size ≤ alignment.up t.size := Alignment.le_up (room.sizes t List.mem_cons_self)
    have hfit : firstFit? alignment t.size 0 (aliveAt live t) =
        some (firstFit alignment t.size 0 (aliveAt live t)) := by
      apply firstFit?_eq room.aligned (by omega) _ (Nat.zero_le bound)
      intro p hp
      exact room.bounded p (List.mem_of_mem_filter hp)
    have hstop : (placed alignment live t).stop? = some (placed alignment live t).stop := by
      have hle := room.placed_stop_le
      have hsum : (placed alignment live t).offset + (placed alignment live t).buffer.size =
          (placed alignment live t).stop := rfl
      exact Word.add?_eq_some.mpr ⟨by omega, rfl⟩
    have hrest := ih room.next (by omega)
    simp only [place?, place, hfit, hstop, hrest, Option.bind_eq_bind, Option.bind_some]
    rfl

/-- No set accepts the first buffer: when the second one looks for a place, its end cannot be rounded up. -/
example : place? .byte [] [⟨⟨0⟩, 0, 1, Word.limit - 1⟩, ⟨⟨1⟩, 1, 2, 1⟩] = none := by decide

end Placement

namespace TransientSet

/-- `layout` with its sums checked. -/
def layout? (set : TransientSet) : Option Layout := do
  let placements ← Placement.place? set.alignment [] set.ordered
  return {
    size := (placements.map Placement.stop).foldl max 0
    entries := placements.map fun p => (p.buffer.id, p.offset) }

/-- `naiveSize` with its sums checked. -/
def naiveSize? (set : TransientSet) : Option Nat :=
  set.buffers.foldlM (fun sum t => Word.add? sum t.size) 0

/-- `reuse` with its sums checked. -/
def reuse? (set : TransientSet) : Option ReuseReport := do
  let layout ← set.layout?
  let naive ← set.naiveSize?
  return { count := set.buffers.length, naive, size := layout.size }

/-- Sizes that fit a word together are added up without leaving the word range on the way. -/
theorem foldlM_add?_eq {buffers : List Transient} {sum : Nat}
    (h : sum + (buffers.map Transient.size).sum < Word.limit) :
    buffers.foldlM (fun sum t => Word.add? sum t.size) sum =
      some (sum + (buffers.map Transient.size).sum) := by
  induction buffers generalizing sum with
  | nil => rfl
  | cons t rest ih =>
    rw [List.map_cons, List.sum_cons] at h ⊢
    have hfirst : Word.add? sum t.size = some (sum + t.size) := Word.add?_eq_some.mpr ⟨by omega, rfl⟩
    rw [List.foldlM_cons, hfirst, Option.bind_eq_bind, Option.bind_some, ih (by omega), Nat.add_assoc]

variable {set : TransientSet}

namespace Valid

variable (valid : Valid set)

include valid

/-- On accepted buffers the checks of a layout never fail. -/
theorem layout?_eq : set.layout? = some set.layout := by
  have hroom : 0 + Placement.roundedSize set.alignment set.ordered + set.alignment.bytes < Word.limit := by
    have h := valid.room
    rw [set.roundedSize_ordered]
    omega
  have hplace := valid.room_placements.place?_eq hroom
  rw [layout?, hplace]
  rfl

/-- The sizes add up to no more than the rounded sizes. -/
theorem naiveSize_le : set.naiveSize ≤ set.reserved :=
  List.sum_le_sum fun t ht => Alignment.le_up (valid.sizes t ht)

/-- On accepted buffers the sizes add up to a word. -/
theorem naiveSize?_eq : set.naiveSize? = some set.naiveSize := by
  have hsum : (set.buffers.map Transient.size).sum = set.naiveSize := rfl
  have hle := valid.naiveSize_le
  have hroom := valid.room
  have hall : set.naiveSize? = some (0 + (set.buffers.map Transient.size).sum) :=
    foldlM_add?_eq (by omega)
  rw [hall, hsum, Nat.zero_add]

end Valid

/-- Whatever is offered, no sum leaves the word range while the accepted buffers are placed, nor while their
sizes are added up for the report on reuse. -/
theorem offerAll_checked (alignment : Alignment) (offered : List Transient) :
    let set := offerAll { alignment } offered
    set.layout? = some set.layout ∧ set.reuse? = some set.reuse := by
  intro set
  have valid : Valid set := (valid_empty alignment).offerAll offered
  have hlayout := valid.layout?_eq
  refine ⟨hlayout, ?_⟩
  rw [reuse?, hlayout, valid.naiveSize?_eq]
  rfl

end TransientSet
end MemoryPlan
