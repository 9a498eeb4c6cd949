import MemoryPlan.Proofs.Device.Host
/-!
# Confined programs

A program is confined when each of its reads and writes lies in a place that it was given. A confined
program depends on the bytes of the places it reads only, and changes no byte outside the places it writes.
On a sound device whose live allocations hold these places, to run such a program is to evaluate it on the
memory of the device: no access fails.
-/

namespace MemoryPlan

namespace Program

variable {α β : Type} {reads writes : List TensorPlace} {program : Program α}

/-- What a program does to memory in which every access succeeds. -/
def evaluate : Program α → Memory → Except (Halt PlanError) α × Memory
  | done value, m => (.ok value, m)
  | stop halt, m => (.error halt, m)
  | read address length next, m => evaluate (next (.ok (m.bytes address length))) m
  | write address data next, m => evaluate (next (.ok ())) (m.write address data)
  | note _ next, m => evaluate next m

/-- Every read lies in a place that may be read, and every write in one that may be written. -/
def Within (reads writes : List TensorPlace) : Program α → Prop
  | done _ => True
  | stop _ => True
  | read address length next =>
    TensorPlace.Granted reads address length ∧
      ∀ data : Bytes, data.length = length → Within reads writes (next (.ok data))
  | write address data next =>
    TensorPlace.Granted writes address data.length ∧ Within reads writes (next (.ok ()))
  | note _ next => Within reads writes next

/-- A confined program is confined to more as well. -/
theorem Within.mono (h : program.Within reads writes) {reads' writes' : List TensorPlace}
    (hr : TensorPlace.Held reads reads') (hw : TensorPlace.Held writes writes') :
    program.Within reads' writes' := by
  induction program with
  | done value => trivial
  | stop halt => trivial
  | read address length next ih =>
    obtain ⟨hgranted, hnext⟩ := h
    exact ⟨hgranted.mono hr, fun data hdata => ih _ (hnext data hdata)⟩
  | write address data next ih =>
    obtain ⟨hgranted, hnext⟩ := h
    exact ⟨hgranted.mono hw, ih _ hnext⟩
  | note event next ih => exact ih h

/-- A program that goes on with confined ones is confined. -/
theorem Within.bind (h : program.Within reads writes) {next : α → Program β}
    (hnext : ∀ a, (next a).Within reads writes) : (program >>= next).Within reads writes := by
  induction program with
  | done value => exact hnext value
  | stop halt => trivial
  | read address length more ih => exact ⟨h.1, fun data hdata => ih _ (h.2 data hdata)⟩
  | write address data more ih => exact ⟨h.1, ih _ h.2⟩
  | note event more ih => exact ih h

/-- The report of a fault touches no memory. -/
theorem Within.onError (h : program.Within reads writes) (report : PlanError → Event) :
    (program.onError report).Within reads writes := by
  induction program with
  | done value => trivial
  | stop halt => cases halt <;> trivial
  | read address length next ih => exact ⟨h.1, fun data hdata => ih _ (h.2 data hdata)⟩
  | write address data next ih => exact ⟨h.1, ih _ h.2⟩
  | note event next ih => exact ih h

/-- A read of granted bytes is confined, and so is one of no bytes. -/
theorem within_fetch {address length : Nat}
    (h : 0 < length → TensorPlace.Granted reads address length) :
    (fetch address length).Within reads writes := by
  unfold fetch
  split
  · trivial
  · next hne => exact ⟨h (Nat.pos_of_ne_zero hne), fun _ _ => trivial⟩

/-- What follows a read is confined if it is confined for all bytes of that length. -/
theorem within_fetch_bind {address length : Nat} {next : Bytes → Program β}
    (h : 0 < length → TensorPlace.Granted reads address length)
    (hnext : ∀ data : Bytes, data.length = length → (next data).Within reads writes) :
    (fetch address length >>= next).Within reads writes := by
  unfold fetch
  split
  · next hzero => exact hnext [] hzero.symm
  · next hne => exact ⟨h (Nat.pos_of_ne_zero hne), hnext⟩

/-- A write of granted bytes is confined, and so is one of no bytes. -/
theorem within_store {address : Nat} {data : Bytes}
    (h : 0 < data.length → TensorPlace.Granted writes address data.length) :
    (store address data).Within reads writes := by
  unfold store
  split
  · trivial
  · next hne =>
    have hpos : 0 < data.length := List.length_pos_of_ne_nil fun hnil => hne (by rw [hnil]; rfl)
    exact ⟨h hpos, trivial⟩

/-- A program that goes on is evaluated in the memory that its first part leaves. -/
theorem evaluate_bind (program : Program α) (next : α → Program β) (m : Memory) :
    (program >>= next).evaluate m =
      match program.evaluate m with
      | (.ok a, after) => (next a).evaluate after
      | (.error halt, after) => (.error halt, after) := by
  induction program generalizing m with
  | done value => rfl
  | stop halt => rfl
  | read address length more ih => exact ih _ m
  | write address data more ih => exact ih _ _
  | note event more ih => exact ih m

@[simp] theorem evaluate_onError (report : PlanError → Event) (program : Program α) (m : Memory) :
    (program.onError report).evaluate m = program.evaluate m := by
  induction program generalizing m with
  | done value => rfl
  | stop halt => cases halt <;> rfl
  | read address length more ih => exact ih _ m
  | write address data more ih => exact ih _ _
  | note event more ih => exact ih m

@[simp] theorem evaluate_fetch (address length : Nat) (m : Memory) :
    (fetch address length).evaluate m = (.ok (m.bytes address length), m) := by
  unfold fetch
  split
  · next h =>
    rw [h]
    rfl
  · rfl

@[simp] theorem evaluate_store (address : Nat) (data : Bytes) (m : Memory) :
    (store address data).evaluate m = (.ok (), m.write address data) := by
  unfold store
  split
  · next h =>
    rw [List.isEmpty_iff.mp h, Memory.write_nil]
    rfl
  · rfl

/-- A confined program changes no byte outside the places that it may write. -/
theorem Within.evaluate_outside (h : program.Within reads writes) (m : Memory) {x : Nat}
    (hx : ∀ p ∈ writes, ¬p.Has x) : (program.evaluate m).2 x = m x := by
  induction program generalizing m with
  | done value => rfl
  | stop halt => rfl
  | read address length next ih => exact ih _ (h.2 _ (Memory.length_bytes m address length)) m
  | write address data next ih =>
    have hkeep : m.write address data x = m x := h.1.write_outside hx
    exact (ih _ h.2 _).trans hkeep
  | note event next ih => exact ih h m

/-- A confined program depends on the bytes of the places that it may read only. -/
theorem Within.evaluate_congr (h : program.Within reads writes) {m n : Memory}
    (hagree : ∀ p ∈ reads, ∀ x, p.Has x → m x = n x) :
    (program.evaluate m).1 = (program.evaluate n).1 ∧
      ∀ x, m x = n x → (program.evaluate m).2 x = (program.evaluate n).2 x := by
  induction program generalizing m n with
  | done value => exact ⟨rfl, fun x hx => hx⟩
  | stop halt => exact ⟨rfl, fun x hx => hx⟩
  | read address length next ih =>
    have hbytes : m.bytes address length = n.bytes address length := h.1.bytes_congr hagree
    have hrest := ih _ (h.2 _ (Memory.length_bytes m address length)) hagree
    rw [evaluate, evaluate, ← hbytes]
    exact hrest
  | write address data next ih =>
    have hwrite : ∀ x, m x = n x → m.write address data x = n.write address data x := fun _ =>
      Memory.write_congr address data
    have hrest := ih _ h.2 fun p hp x hx => hwrite x (hagree p hp x hx)
    exact ⟨hrest.1, fun x hx => hrest.2 x (hwrite x hx)⟩
  | note event next ih => exact ih h hagree

/-- To run a confined program alone on a sound device is to evaluate it on the device's memory. -/
theorem Within.run_eq (h : program.Within reads writes) {site : Site HostDevice}
    (hs : site.device.Sound) (hr : TensorPlace.Held reads site.device.extents)
    (hw : TensorPlace.Held writes site.device.extents) :
    (program.run site).1 = (program.evaluate site.device.memory).1 ∧
      (program.run site).2.device.memory = (program.evaluate site.device.memory).2 ∧
      (program.run site).2.device.Alike site.device := by
  induction program generalizing site with
  | done value => exact ⟨rfl, rfl, .refl _⟩
  | stop halt => exact ⟨rfl, rfl, .refl _⟩
  | read address length next ih =>
    obtain ⟨hgranted, hnext⟩ := h
    obtain ⟨q, hq, -, hcovers⟩ := hgranted.mono hr
    have hop : site.device.copyOut address length = .ok (site.device.memory.bytes address length) :=
      hs.copyOut_eq hq hcovers
    have hrun : (read address length next).run site =
        (next (.ok (site.device.memory.bytes address length))).run site := by
      simp only [run, Device.copyOut, hop, seen]
    rw [hrun]
    exact ih _ (hnext _ (Memory.length_bytes _ _ _)) hs hr hw
  | write address data next ih =>
    obtain ⟨hgranted, hnext⟩ := h
    obtain ⟨q, hq, -, hcovers⟩ := hgranted.mono hw
    obtain ⟨after, hop, hmemory, halike⟩ := hs.copyIn_eq hq hcovers
    have hrun : (write address data next).run site = (next (.ok ())).run { site with device := after } := by
      simp only [run, Device.copyIn, hop, seen, Except.map, HostDevice.settle]
    have hextents : after.extents = site.device.extents := halike.1
    let moved : Site HostDevice := { site with device := after }
    have hs' : moved.device.Sound := hs.of_extents halike.1 halike.2
    have hr' : TensorPlace.Held reads moved.device.extents := hextents ▸ hr
    have hw' : TensorPlace.Held writes moved.device.extents := hextents ▸ hw
    obtain ⟨hvalue, hfinal, hshape⟩ := ih _ hnext hs' hr' hw'
    have hmoved : moved.device.memory = site.device.memory.write address data := hmemory
    rw [hmoved] at hvalue hfinal
    rw [hrun]
    exact ⟨hvalue, hfinal, hshape.trans halike⟩
  | note event next ih => exact ih h hs hr hw

end Program
end MemoryPlan
