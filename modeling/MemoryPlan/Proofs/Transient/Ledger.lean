import MemoryPlan.Proofs.Transient.Footprint
/-!
# Buffers added in place

A ledger is a set of transient buffers that is changed in place. Beside the buffers it records their ids and
the sum of their rounded sizes, and a call that adds a buffer brings the three records up to date one after the
other. After any calls the records agree with one another and with the set to which the same buffers were
offered. So a call is accepted exactly if its lifespan is not inverted, its id is new, and all rounded sizes
with one alignment more fit a word; a refused call leaves every record as it was.
-/

namespace MemoryPlan

/-- A set of transient buffers that is changed in place. -/
structure TransientLedger where
  /-- The alignment of offsets. -/
  alignment : Alignment := .byte
  /-- The buffers, in the order in which they were added. -/
  buffers : List Transient := []
  /-- The ids of the buffers. -/
  ids : List BufferId := []
  /-- The sum of the sizes, each rounded up to the alignment. -/
  reserved : Nat := 0

namespace TransientLedger

/-- The set that the ledger holds; its layout is the layout of this set. -/
def set (ledger : TransientLedger) : TransientSet := { alignment := ledger.alignment, buffers := ledger.buffers }

/-- The recorded sum after one more buffer, unless that sum plus the alignment leaves the word range. -/
def grown? (ledger : TransientLedger) (size : Nat) : Option Nat := do
  let rounded ← ledger.alignment.up? size
  let total ← Word.add? ledger.reserved rounded
  let _ ← Word.add? total ledger.alignment.bytes
  return total

/-- Adds a buffer in place. What was recorded before an error stays recorded. -/
def enter (t : Transient) : ExceptT PlanError (StateM TransientLedger) Unit := do
  let ledger ← get
  if t.finish < t.start then
    throw (.invalidAllocation (.invertedLifespan t.id t.start t.finish))
  else if t.id ∈ ledger.ids then
    throw (.invalidAllocation (.duplicateTransient t.id))
  else match ledger.grown? t.size with
    | none => throw (.invalidAllocation (.transientOverflow t.id t.size ledger.reserved))
    | some total =>
      modify fun ledger => { ledger with ids := t.id :: ledger.ids }
      modify fun ledger => { ledger with reserved := total }
      modify fun ledger => { ledger with buffers := ledger.buffers ++ [t] }

/-- One call: its answer, and the ledger after it. -/
def call (ledger : TransientLedger) (t : Transient) : Except PlanError Unit × TransientLedger :=
  (enter t).run.run ledger

/-- Several calls: their answers, and the ledger after all of them. -/
def calls : TransientLedger → List Transient → List (Except PlanError Unit) × TransientLedger
  | ledger, [] => ([], ledger)
  | ledger, t :: rest =>
    let (answer, next) := ledger.call t
    let (answers, last) := next.calls rest
    (answer :: answers, last)

/-- A call changes the records only after the last check. -/
theorem call_eq (ledger : TransientLedger) (t : Transient) : ledger.call t =
    if t.finish < t.start then
      (.error (.invalidAllocation (.invertedLifespan t.id t.start t.finish)), ledger)
    else if t.id ∈ ledger.ids then (.error (.invalidAllocation (.duplicateTransient t.id)), ledger)
    else match ledger.grown? t.size with
      | none => (.error (.invalidAllocation (.transientOverflow t.id t.size ledger.reserved)), ledger)
      | some total => (.ok (),
        { ledger with ids := t.id :: ledger.ids, reserved := total, buffers := ledger.buffers ++ [t] }) := by
  unfold call enter
  change StateT.run (ExceptT.run (if _ then _ else _)) ledger = _
  by_cases hinverted : t.finish < t.start
  · rw [if_pos hinverted, if_pos hinverted]
    rfl
  · rw [if_neg hinverted, if_neg hinverted]
    by_cases hknown : t.id ∈ ledger.ids
    · rw [if_pos hknown, if_pos hknown]
      rfl
    · rw [if_neg hknown, if_neg hknown]
      cases ledger.grown? t.size <;> rfl

theorem calls_cons (ledger : TransientLedger) (t : Transient) (rest : List Transient) :
    ledger.calls (t :: rest) =
      ((ledger.call t).1 :: ((ledger.call t).2.calls rest).1, ((ledger.call t).2.calls rest).2) := rfl

/-- The answers to all calls are those to the first ones, and those that the ledger after them gives. -/
theorem calls_append (ledger : TransientLedger) (first later : List Transient) :
    ledger.calls (first ++ later) =
      ((ledger.calls first).1 ++ ((ledger.calls first).2.calls later).1, ((ledger.calls first).2.calls later).2) := by
  induction first generalizing ledger with
  | nil => rfl
  | cons t rest ih => rw [List.cons_append, calls_cons, ih, calls_cons, List.cons_append]

/-- Every call gets an answer. -/
theorem length_calls (ledger : TransientLedger) (buffers : List Transient) :
    (ledger.calls buffers).1.length = buffers.length := by
  induction buffers generalizing ledger with
  | nil => rfl
  | cons t rest ih => rw [calls_cons, List.length_cons, ih, List.length_cons]

/-- The records of a ledger agree with one another and with a set. -/
structure Records (ledger : TransientLedger) (set : TransientSet) : Prop where
  /-- The ledger holds the set. -/
  holds : ledger.set = set
  /-- The recorded ids are those of the buffers. -/
  ids : ∀ id, id ∈ ledger.ids ↔ ∃ t ∈ set.buffers, t.id = id
  /-- The recorded sum is that of the rounded sizes. -/
  reserved : ledger.reserved = set.reserved

variable {ledger : TransientLedger} {set after : TransientSet} {t : Transient} {e : PlanError}

theorem records_empty (alignment : Alignment) : Records { alignment } { alignment } where
  holds := rfl
  ids := by simp
  reserved := rfl

/-- The running sum of the ledger is that of the accepted buffers. -/
theorem Records.grown?_eq (h : Records ledger set) (size : Nat) : ledger.grown? size = set.grown? size := by
  obtain ⟨rfl, -, hreserved⟩ := h
  unfold TransientLedger.grown? TransientSet.grown?
  rw [hreserved]
  rfl

/-- A call that the set refuses is answered alike, and nothing is recorded. -/
theorem Records.call_error (h : Records ledger set) (hadd : set.add t = .error e) :
    ledger.call t = (.error e, ledger) := by
  have hknown : (set.buffers.any fun other => other.id = t.id) = true ↔ t.id ∈ ledger.ids := by
    rw [h.ids]
    simp
  rw [call_eq]
  unfold TransientSet.add at hadd
  split at hadd
  · next hinverted =>
    rw [if_pos hinverted, ← Except.error.inj hadd]
  · next hordered =>
    rw [if_neg hordered]
    split at hadd
    · next hany =>
      rw [if_pos (hknown.mp hany), ← Except.error.inj hadd]
    · next hnew =>
      rw [if_neg (mt hknown.mpr hnew), h.grown?_eq, h.reserved]
      cases hgrown : set.grown? t.size with
      | none =>
        rw [hgrown] at hadd
        obtain rfl := Except.error.inj hadd
        rfl
      | some total =>
        rw [hgrown] at hadd
        cases hadd

/-- A call that the set accepts is accepted, and the records are up to date. -/
theorem Records.call_ok (h : Records ledger set) (hadd : set.add t = .ok after) :
    ∃ next, ledger.call t = (.ok (), next) ∧ Records next after := by
  obtain ⟨hordered, hnew, hsize, hroom, rfl⟩ := TransientSet.add_eq_ok.mp hadd
  have hknown : t.id ∉ ledger.ids := by
    rw [h.ids]
    rintro ⟨other, hother, hid⟩
    exact hnew other hother hid
  have hgrown : ledger.grown? t.size = some (set.reserved + set.alignment.up t.size) := by
    rw [h.grown?_eq]
    exact TransientSet.grown?_eq_some.mpr ⟨hsize, hroom, rfl⟩
  rw [call_eq, if_neg (Nat.not_lt.mpr hordered), if_neg hknown, hgrown]
  obtain ⟨rfl, hids, -⟩ := h
  refine ⟨_, rfl, rfl, ?_, ?_⟩
  · intro id
    rw [List.mem_cons, hids]
    simp [or_comm, eq_comm]
  · exact (Placement.roundedSize_append ledger.alignment ledger.buffers [t]).symm

/-- The records agree with the set to which the buffers were offered. -/
theorem Records.calls (h : Records ledger set) (buffers : List Transient) :
    Records (ledger.calls buffers).2 (set.offerAll buffers) := by
  induction buffers generalizing ledger set with
  | nil => exact h
  | cons t rest ih =>
    change Records ((ledger.call t).2.calls rest).2 ((set.offer t).offerAll rest)
    cases hadd : set.add t with
    | ok after =>
      obtain ⟨next, hcall, hnext⟩ := h.call_ok hadd
      rw [hcall, TransientSet.offer, hadd]
      exact ih hnext
    | error e =>
      rw [h.call_error hadd, TransientSet.offer, hadd]
      exact ih h

end TransientLedger

/-- What a buffer needs in order to be accepted beside others. -/
structure Transient.Joins (alignment : Alignment) (others : List Transient) (t : Transient) : Prop where
  /-- Its lifespan is not inverted. -/
  ordered : t.start ≤ t.finish
  /-- Its id is new. -/
  new : ∀ other ∈ others, other.id ≠ t.id
  /-- The sizes, each rounded up, and one alignment more fit a word together. -/
  room : ((others ++ [t]).map fun u => alignment.ceil u.size).sum + alignment.bytes ≤ 2 ^ 64 - 1

namespace TransientSet

variable {set after : TransientSet} {t : Transient} {e : PlanError}

/-- Sets only ever say that an allocation is invalid. -/
theorem add_eq_error (h : set.add t = .error e) : ∃ cause, e = .invalidAllocation cause := by
  unfold add at h
  split at h
  · exact ⟨_, (Except.error.inj h).symm⟩
  · split at h
    · exact ⟨_, (Except.error.inj h).symm⟩
    · split at h
      · exact ⟨_, (Except.error.inj h).symm⟩
      · cases h

/-- In a valid set, the checks of a size say that the rounded sizes and one alignment more fit a word. -/
theorem Valid.room_iff (valid : Valid set) :
    t.size + set.alignment.bytes ≤ Word.limit ∧
        set.reserved + set.alignment.up t.size + set.alignment.bytes < Word.limit ↔
      ((set.buffers ++ [t]).map fun u => set.alignment.ceil u.size).sum + set.alignment.bytes ≤ 2 ^ 64 - 1 := by
  have hlimit : Word.limit = 2 ^ 64 := rfl
  have hreserved : set.reserved = (set.buffers.map fun u => set.alignment.ceil u.size).sum := valid.reserved_eq
  have hle : t.size ≤ set.alignment.ceil t.size := Alignment.le_ceil
  rw [List.map_append, List.sum_append, List.map_singleton, List.sum_singleton, ← hreserved]
  constructor
  · rintro ⟨hsize, hroom⟩
    rw [Alignment.up_eq hsize] at hroom
    omega
  · intro hroom
    have hsize : t.size + set.alignment.bytes ≤ Word.limit := by omega
    rw [Alignment.up_eq hsize]
    omega

/-- A buffer is accepted exactly if it may join the others, and it joins them at the end. -/
theorem Valid.add_eq_ok_iff (valid : Valid set) :
    set.add t = .ok after ↔
      t.Joins set.alignment set.buffers ∧ after = { set with buffers := set.buffers ++ [t] } := by
  rw [add_eq_ok]
  constructor
  · rintro ⟨hordered, hnew, hsize, hroom, hafter⟩
    exact ⟨⟨hordered, hnew, valid.room_iff.mp ⟨hsize, hroom⟩⟩, hafter⟩
  · rintro ⟨⟨hordered, hnew, hsum⟩, hafter⟩
    obtain ⟨hsize, hroom⟩ := valid.room_iff.mpr hsum
    exact ⟨hordered, hnew, hsize, hroom, hafter⟩

end TransientSet

namespace TransientLedger

/-- Whatever was called before, a call is accepted exactly if its buffer joins those accepted so far. Otherwise the
allocation is invalid, the ledger is as it was, and later calls are answered, and the ledger stands after
them, as if the call had not been made. -/
theorem call_exact (alignment : Alignment) (before : List Transient) (t : Transient) :
    let ledger := (calls { alignment } before).2
    let kept := TransientSet.accepted { alignment } before
    (ledger.set = TransientSet.offerAll { alignment } before ∧ ledger.buffers = kept) ∧
      (t.Joins alignment kept → ∃ next, ledger.call t = (.ok (), next) ∧ ledger.set.add t = .ok next.set ∧
        next.buffers = kept ++ [t]) ∧
      (¬t.Joins alignment kept → ∃ cause, ledger.call t = (.error (.invalidAllocation cause), ledger) ∧
        ledger.set.add t = .error (.invalidAllocation cause) ∧
        ∀ later,
          let refused := calls { alignment } (before ++ t :: later)
          let without := calls { alignment } (before ++ later)
          refused.1.eraseIdx before.length = without.1 ∧ refused.2 = without.2) := by
  intro ledger kept
  have hrecords : Records ledger (TransientSet.offerAll { alignment } before) :=
    (records_empty alignment).calls before
  have hset : TransientSet.offerAll { alignment } before = { alignment, buffers := kept } :=
    TransientSet.offerAll_new alignment before
  have valid : TransientSet.Valid { alignment, buffers := kept } := TransientSet.valid_accepted alignment before
  rw [hset] at hrecords ⊢
  have hholds : ledger.set = { alignment, buffers := kept } := hrecords.holds
  refine ⟨⟨hholds, congrArg TransientSet.buffers hholds⟩, ?_, ?_⟩
  · intro hjoins
    have hadd := valid.add_eq_ok_iff.mpr ⟨hjoins, rfl⟩
    obtain ⟨next, hcall, hnext⟩ := hrecords.call_ok hadd
    refine ⟨next, hcall, ?_, congrArg TransientSet.buffers hnext.holds⟩
    rw [hholds, hnext.holds]
    exact hadd
  · intro hnot
    have hfault : ∃ e, TransientSet.add { alignment, buffers := kept } t = .error e := by
      cases hadd : TransientSet.add { alignment, buffers := kept } t with
      | ok after => exact absurd (valid.add_eq_ok_iff.mp hadd).1 hnot
      | error e => exact ⟨e, rfl⟩
    obtain ⟨e, hadd⟩ := hfault
    obtain ⟨cause, rfl⟩ := TransientSet.add_eq_error hadd
    have hcall := hrecords.call_error hadd
    refine ⟨cause, hcall, by rw [hholds]; exact hadd, ?_⟩
    intro later
    have hlength : (calls { alignment } before).1.length = before.length := length_calls _ before
    rw [calls_append, calls_append, calls_cons, hcall, ← hlength]
    refine ⟨?_, rfl⟩
    rw [List.eraseIdx_append_of_length_le (Nat.le_refl _), Nat.sub_self]
    rfl

/-- Two halves of the word range do not fit beside each other. The refused id can still be used. -/
example :
    (calls {} [⟨⟨0⟩, 0, 1, 2 ^ 63⟩, ⟨⟨1⟩, 0, 1, 2 ^ 63⟩, ⟨⟨1⟩, 2, 3, 16⟩]).1.map Except.toBool =
      [true, false, true] := by
  decide

end TransientLedger
end MemoryPlan
