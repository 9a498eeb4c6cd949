import Mathlib.Algebra.Order.Group.Multiset
import MemoryPlan.Device.Buffer
import MemoryPlan.Proofs.Contract
/-!
# Watched devices

A `Watched` device lists the memory calls that reach the device below it and is otherwise the same device:
an act yields on it what it yields below (`Act.Mirrors`). The list is checked as an account of the memory
that is held, in which a free of anything else is refused (`MemoryCall.account`).
-/

namespace MemoryPlan

/-- A memory call that reached a device. -/
inductive MemoryCall where
  /-- Memory of that size was asked for; if the device granted it, it starts at that address. -/
  | allocate (size : Nat) (given : Option Address)
  /-- The memory at that address was given back. -/
  | free (address : Address)
  deriving DecidableEq, Repr

namespace MemoryCall

/-- The address that a call handed out. -/
def handedOut? : MemoryCall → Option Address
  | allocate _ given => given
  | free _ => none

/-- The address that a call took back. -/
def takenBack? : MemoryCall → Option Address
  | allocate _ _ => none
  | free address => some address

/-- The addresses that the device handed out, in order. -/
def handedOut (calls : List MemoryCall) : List Address := calls.filterMap handedOut?

/-- The addresses that were given back, in order. -/
def takenBack (calls : List MemoryCall) : List Address := calls.filterMap takenBack?

/-- The memory that is held after a call; a free of memory that is not held is refused. -/
def settle (held : Multiset Address) : MemoryCall → Option (Multiset Address)
  | allocate _ none => some held
  | allocate _ (some address) => some (address ::ₘ held)
  | free address => if address ∈ held then some (held.erase address) else none

/-- The memory that is held after several calls. -/
def account (held : Multiset Address) (calls : List MemoryCall) : Option (Multiset Address) :=
  calls.foldlM settle held

variable {start held : Multiset Address} {calls : List MemoryCall} {address : Address}

/-- An account goes on where the first calls end. -/
theorem account_append (h : account start calls = some held) (more : List MemoryCall) :
    account start (calls ++ more) = account held more := by
  unfold account at h ⊢
  rw [List.foldlM_append, h]
  rfl

/-- Only memory that is held can be given back. -/
theorem settle_free_eq_some (h : settle start (.free address) = some held) : start = address ::ₘ held := by
  change (if address ∈ start then some (start.erase address) else none) = some held at h
  split at h
  · next hmem =>
    obtain rfl := Option.some.inj h
    exact (Multiset.cons_erase hmem).symm
  · cases h

/-- A call hands out what is held after it and not before, and takes back what is held before it only. -/
theorem settle_eq_some {call : MemoryCall} (h : settle start call = some held) :
    start + call.handedOut?.toList = call.takenBack?.toList + held := by
  cases call with
  | allocate size given =>
    cases given with
    | none =>
      obtain rfl := Option.some.inj h
      simp [handedOut?, takenBack?]
    | some address =>
      obtain rfl := Option.some.inj h
      simp [handedOut?, takenBack?, add_comm start]
  | free address =>
    rw [settle_free_eq_some h]
    simp [handedOut?, takenBack?]

/-- What was held or handed out was taken back or is still held. -/
theorem account_eq_some (h : account start calls = some held) :
    start + handedOut calls = takenBack calls + held := by
  induction calls generalizing start with
  | nil =>
    obtain rfl := Option.some.inj h
    simp [handedOut, takenBack]
  | cons call more ih =>
    unfold account at h
    rw [List.foldlM_cons] at h
    obtain ⟨between, hcall, hmore⟩ := Option.bind_eq_some_iff.mp h
    have hsettle := settle_eq_some hcall
    have hrest := ih hmore
    have hhanded : (handedOut (call :: more) : Multiset Address) =
        call.handedOut?.toList + handedOut more := by
      cases hcase : call.handedOut? <;> simp [handedOut, hcase]
    have htaken : (takenBack (call :: more) : Multiset Address) =
        call.takenBack?.toList + takenBack more := by
      cases hcase : call.takenBack? <;> simp [takenBack, hcase]
    rw [hhanded, htaken, ← add_assoc, hsettle, add_assoc, hrest, add_assoc]

end MemoryCall

/-- A device with the memory calls that reached it. -/
structure Watched (δ : Type) where
  /-- The device below. -/
  device : δ
  /-- The memory calls so far, in order. -/
  calls : List MemoryCall := []

namespace Watched

variable {δ β : Type}

/-- Passes an operation on to the device below and lists the memory calls that it consists of. -/
def pass (operation : δ → β × δ) (made : β → List MemoryCall) (watched : Watched δ) : β × Watched δ :=
  ((operation watched.device).1,
    { device := (operation watched.device).2
      calls := watched.calls ++ made (operation watched.device).1 })

/-- A watched operation is the operation itself, with its calls noted behind the others. -/
theorem pass_eq {operation : δ → β × δ} {watched : Watched δ} {b : β} {device : δ}
    (hop : operation watched.device = (b, device)) (made : β → List MemoryCall) :
    pass operation made watched = (b, ⟨device, watched.calls ++ made b⟩) := by
  unfold pass
  rw [hop]

instance [Device δ] : Device (Watched δ) where
  ordinal watched := Device.ordinal watched.device
  label watched := Device.label watched.device
  streamLimit watched := Device.streamLimit watched.device
  memoryInfo := pass Device.memoryInfo fun _ => []
  allocate watched size :=
    watched.pass (fun device => Device.allocate device size) fun outcome => [.allocate size outcome.toOption]
  free watched address := watched.pass (fun device => Device.free device address) fun _ => [.free address]
  copyIn watched address data := watched.pass (fun device => Device.copyIn device address data) fun _ => []
  copyOut watched address length :=
    watched.pass (fun device => Device.copyOut device address length) fun _ => []

end Watched

namespace Site

variable {δ : Type}

/-- The site of the device below. -/
def plain (site : Site (Watched δ)) : Site δ := ⟨site.device.device, site.journal⟩

/-- The site with its device watched from now on. -/
def watched (site : Site δ) : Site (Watched δ) := ⟨⟨site.device, []⟩, site.journal⟩

@[simp] theorem plain_watched (site : Site δ) : site.watched.plain = site := rfl

end Site

namespace Act

variable {δ ε φ α β : Type}

/-- The act on the watched device yields what the other one yields on the device below. -/
def Mirrors (act : Act (Watched δ) ε α) (below : Act δ ε α) : Prop :=
  ∀ site, ((act site).1, (act site).2.plain) = below site.plain

theorem mirrors_pure (a : α) : (pure a : Act (Watched δ) ε α).Mirrors (pure a) := fun _ => rfl

theorem mirrors_fail (cause : ε) : (fail cause : Act (Watched δ) ε α).Mirrors (fail cause) := fun _ => rfl

theorem mirrors_ofExcept (result : Except ε α) :
    (ofExcept result : Act (Watched δ) ε α).Mirrors (ofExcept result) := by
  cases result <;> exact fun _ => rfl

/-- To take up a result makes no call. -/
theorem mirrors_log (entries : List Record) : (log entries : Act (Watched δ) ε Unit).Mirrors (log entries) :=
  fun _ => rfl

/-- Two computations in a row mirror two others if each does. -/
theorem mirrors_bind {first : Act (Watched δ) ε α} {first' : Act δ ε α} {next : α → Act (Watched δ) ε β}
    {next' : α → Act δ ε β} (hfirst : first.Mirrors first') (hnext : ∀ a, (next a).Mirrors (next' a)) :
    (first >>= next).Mirrors (first' >>= next') := by
  intro site
  rw [bind_apply, bind_apply, ← hfirst site]
  match first site with
  | (.ok a, after) => exact hnext a after
  | (.error halt, after) => rfl

/-- A computation that goes on with the device sees the device below. -/
theorem mirrors_device_bind {next : Watched δ → Act (Watched δ) ε β} {next' : δ → Act δ ε β}
    (hnext : ∀ watched, (next watched).Mirrors (next' watched.device)) :
    (device >>= next).Mirrors (device >>= next') := fun site => hnext site.device site

theorem mirrors_ofNoted (noted : Noted ε α) :
    (ofNoted noted : Act (Watched δ) ε α).Mirrors (ofNoted noted) :=
  mirrors_bind (mirrors_log _) fun _ => mirrors_ofExcept _

theorem mirrors_mapError {act : Act (Watched δ) ε α} {below : Act δ ε α} (h : act.Mirrors below)
    (f : ε → φ) : (act.mapError f).Mirrors (below.mapError f) := by
  intro site
  unfold mapError
  rw [← h site]
  match act site with
  | (.ok a, after) => rfl
  | (.error halt, after) => rfl

/-- What is undone after an early end is mirrored if the computation and the undoing are. -/
theorem mirrors_orUndo {act : Act (Watched δ) ε α} {below : Act δ ε α} (h : act.Mirrors below)
    {undo : Site (Watched δ) → Site (Watched δ)} {undo' : Site δ → Site δ}
    (hundo : ∀ site, (undo site).plain = undo' site.plain) :
    (act.orUndo undo).Mirrors (below.orUndo undo') := by
  intro site
  unfold orUndo
  rw [← h site]
  match act site with
  | (.ok a, after) => rfl
  | (.error halt, after) => exact Prod.ext rfl (hundo after)

/-- A watched call mirrors the call itself, whatever is noted of it. -/
theorem mirrors_call (operation : δ → Except (Halt ε) α × δ) (made : Except (Halt ε) α → List MemoryCall) :
    (call (Watched.pass operation made)).Mirrors (call operation) := fun _ => rfl

/-- A watched operation that may fail mirrors the operation itself. -/
theorem mirrors_query (operation : δ → Except ε α × δ) (made : Except ε α → List MemoryCall) :
    (query (Watched.pass operation made)).Mirrors (query operation) := fun _ => rfl

/-- What an act ensures below, it ensures on the watched device. -/
theorem Mirrors.ensures {act : Act (Watched δ) ε α} {below : Act δ ε α} (h : act.Mirrors below)
    {good : α → Site δ → Prop} {bad : Halt ε → Site δ → Prop} {site : Site (Watched δ)}
    (hbelow : below.Ensures good bad site.plain) :
    act.Ensures (fun a after => good a after.plain) (fun halt after => bad halt after.plain) site := by
  have hsame := h site
  apply Ensures.intro
  · intro a after hact
    rw [hact] at hsame
    exact hbelow.of_ok hsame.symm
  · intro halt after hact
    rw [hact] at hsame
    exact hbelow.of_error hsame.symm

/-- The act makes no memory calls. -/
def Quiet (act : Act (Watched δ) ε α) : Prop := ∀ site, (act site).2.device.calls = site.device.calls

/-- A quiet computation ensures that no call is noted. -/
theorem Quiet.ensures {act : Act (Watched δ) ε α} (h : act.Quiet) (site : Site (Watched δ)) :
    act.Ensures (fun _ after => after.device.calls = site.device.calls)
      (fun _ after => after.device.calls = site.device.calls) site := by
  have hcalls := h site
  apply Ensures.intro
  · intro a after hact
    rw [hact] at hcalls
    exact hcalls
  · intro halt after hact
    rw [hact] at hcalls
    exact hcalls

theorem quiet_pure (a : α) : (pure a : Act (Watched δ) ε α).Quiet := fun _ => rfl

theorem quiet_fail (cause : ε) : (fail cause : Act (Watched δ) ε α).Quiet := fun _ => rfl

theorem quiet_ofExcept (result : Except ε α) : (ofExcept result : Act (Watched δ) ε α).Quiet := by
  cases result <;> exact fun _ => rfl

theorem quiet_log (entries : List Record) : (log entries : Act (Watched δ) ε Unit).Quiet := fun _ => rfl

theorem quiet_device : (device : Act (Watched δ) ε (Watched δ)).Quiet := fun _ => rfl

/-- Two quiet computations in a row are quiet. -/
theorem quiet_bind {first : Act (Watched δ) ε α} {next : α → Act (Watched δ) ε β} (hfirst : first.Quiet)
    (hnext : ∀ a, (next a).Quiet) : (first >>= next).Quiet := by
  intro site
  have hcalls := hfirst site
  rw [bind_apply]
  match hact : first site with
  | (.ok a, after) =>
    rw [hact] at hcalls
    exact (hnext a after).trans hcalls
  | (.error halt, after) =>
    rw [hact] at hcalls
    exact hcalls

theorem quiet_ofNoted (noted : Noted ε α) : (ofNoted noted : Act (Watched δ) ε α).Quiet :=
  quiet_bind (quiet_log _) fun _ => quiet_ofExcept _

theorem quiet_mapError {act : Act (Watched δ) ε α} (h : act.Quiet) (f : ε → φ) : (act.mapError f).Quiet := by
  intro site
  have hcalls := h site
  unfold mapError
  match hact : act site with
  | (.ok a, after) =>
    rw [hact] at hcalls
    exact hcalls
  | (.error halt, after) =>
    rw [hact] at hcalls
    exact hcalls

/-- A call of which nothing is noted is quiet. -/
theorem quiet_call (operation : δ → Except (Halt ε) α × δ) :
    (call (Watched.pass operation fun _ => [])).Quiet :=
  fun site => List.append_nil site.device.calls

theorem quiet_query (operation : δ → Except ε α × δ) : (query (Watched.pass operation fun _ => [])).Quiet :=
  fun site => List.append_nil site.device.calls

end Act
end MemoryPlan
