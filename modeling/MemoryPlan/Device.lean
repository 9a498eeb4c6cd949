import MemoryPlan.Fault
import MemoryPlan.Journal
/-!
# Devices

A device hands out memory and copies bytes between itself and the host. `Device` lists what planning and
running need of it; each operation yields its outcome and the device afterwards. An `Act` is a computation
on a device that reports events in a journal and may end early: by an error, or by a crash that no caller
is meant to handle.
-/

namespace MemoryPlan

/-- The early end of a computation. -/
inductive Halt (ε : Type) where
  /-- An error that callers may handle. -/
  | error (cause : ε)
  /-- The computation was broken off. -/
  | crash (reason : String)
  deriving DecidableEq, Repr

namespace Halt

/-- Changes the error of an early end. -/
def map {ε φ : Type} (f : ε → φ) : Halt ε → Halt φ
  | error cause => error (f cause)
  | crash reason => crash reason

end Halt

/-- The amounts of memory of a device. -/
structure MemoryInfo where
  /-- Bytes that can still be handed out. -/
  free : Nat
  /-- All bytes. -/
  total : Nat
  deriving DecidableEq, Repr

/-- What planning and running need of a device. -/
class Device (δ : Type) where
  /-- The number of the device on its host. -/
  ordinal : δ → Int
  /-- The name of the device. -/
  label : δ → String
  /-- How many requests it runs at once. -/
  streamLimit : δ → Nat
  /-- The amounts of memory. -/
  memoryInfo : δ → Except DeviceFault MemoryInfo × δ
  /-- Hands out that many bytes. -/
  allocate : δ → Nat → Except (Halt DeviceFault) Address × δ
  /-- Takes memory back. -/
  free : δ → Address → Except DeviceFault Unit × δ
  /-- Copies host bytes to an address. -/
  copyIn : δ → Address → Bytes → Except (Halt DeviceFault) Unit × δ
  /-- Copies that many bytes at an address to the host. -/
  copyOut : δ → Address → Nat → Except (Halt DeviceFault) Bytes × δ

/-- A device together with the journal of what was reported. -/
structure Site (δ : Type) where
  /-- The device. -/
  device : δ
  /-- What was reported. -/
  journal : Journal := {}

namespace Site

/-- Adds an event to the journal. -/
def note {δ : Type} (site : Site δ) (event : Event) : Site δ :=
  { site with journal := site.journal.push (.event event) }

end Site

/-- A computation on a device that may end early. -/
def Act (δ ε α : Type) : Type := Site δ → Except (Halt ε) α × Site δ

namespace Act

variable {δ ε φ α β : Type}

/-- A value, with no effect. -/
def value (a : α) : Act δ ε α := fun site => (.ok a, site)

/-- Goes on with a value; an early end stays. -/
def andThen (first : Act δ ε α) (next : α → Act δ ε β) : Act δ ε β := fun site =>
  match first site with
  | (.ok a, after) => next a after
  | (.error halt, after) => (.error halt, after)

instance : Monad (Act δ ε) where
  pure := value
  bind := andThen

theorem andThen_apply (act : Act δ ε α) (next : α → Act δ ε β) (site : Site δ) :
    andThen act next site = match act site with
      | (.ok a, after) => next a after
      | (.error halt, after) => (.error halt, after) := rfl

theorem andThen_value (act : Act δ ε α) : andThen act value = act := by
  funext site
  rw [andThen_apply]
  match act site with
  | (.ok _, _) => rfl
  | (.error _, _) => rfl

theorem value_andThen (a : α) (next : α → Act δ ε β) : andThen (value a) next = next a := rfl

theorem andThen_assoc {γ : Type} (act : Act δ ε α) (next : α → Act δ ε β) (last : β → Act δ ε γ) :
    andThen (andThen act next) last = andThen act fun a => andThen (next a) last := by
  funext site
  simp only [andThen_apply]
  match act site with
  | (.ok _, _) => rfl
  | (.error _, _) => rfl

instance : LawfulMonad (Act δ ε) := LawfulMonad.mk' _ andThen_value value_andThen andThen_assoc

theorem pure_apply (a : α) (site : Site δ) : (pure a : Act δ ε α) site = (.ok a, site) := rfl

theorem bind_apply (first : Act δ ε α) (next : α → Act δ ε β) (site : Site δ) :
    (first >>= next) site = match first site with
      | (.ok a, after) => next a after
      | (.error halt, after) => (.error halt, after) := rfl

/-- Ends with an error. -/
def fail (cause : ε) : Act δ ε α := fun site => (.error (.error cause), site)

/-- The result of a computation without effects. -/
def ofExcept : Except ε α → Act δ ε α
  | .ok a => value a
  | .error cause => fail cause

/-- Adds entries to the journal. -/
def log (entries : List Record) : Act δ ε Unit := fun site =>
  (.ok (), { site with journal := site.journal.append entries })

/-- Reports an event. -/
def note (event : Event) : Act δ ε Unit := log [.event event]

/-- A noted result: its events are reported first. -/
def ofNoted (noted : Noted ε α) : Act δ ε α := do
  log (noted.events.map .event)
  ofExcept noted.result

/-- What the device is at present. -/
def device : Act δ ε δ := fun site => (.ok site.device, site)

/-- Changes the error of an early end. -/
def mapError (f : ε → φ) (act : Act δ ε α) : Act δ φ α := fun site =>
  match act site with
  | (.ok a, after) => (.ok a, after)
  | (.error halt, after) => (.error (halt.map f), after)

/-- Runs a device operation that may end early. -/
def call (operation : δ → Except (Halt ε) α × δ) : Act δ ε α := fun site =>
  let (outcome, device) := operation site.device
  (outcome, { site with device })

/-- Runs a device operation that may fail. -/
def query (operation : δ → Except ε α × δ) : Act δ ε α :=
  call fun device =>
    let (outcome, after) := operation device
    (outcome.mapError .error, after)

/-- Changes the site after an early end of the computation, which stays ended. -/
def orUndo (act : Act δ ε α) (undo : Site δ → Site δ) : Act δ ε α := fun site =>
  match act site with
  | (.ok a, after) => (.ok a, after)
  | (.error halt, after) => (.error halt, undo after)

end Act
end MemoryPlan
