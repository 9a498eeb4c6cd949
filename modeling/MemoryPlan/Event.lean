/-!
# Events

What the library reports while it works: an `Event` has a level, the part of the library that reports it,
and its words. A `Noted` computation yields the events it reports beside its result, so that the result
can be spoken of without them (`Noted.result_bind`).
-/

namespace MemoryPlan

/-- How important an event is, most important first. -/
inductive Level where
  | error
  | warn
  | info
  | debug
  | trace
  deriving DecidableEq, Repr

namespace Level

/-- The level as log lines show it. -/
def text : Level → String
  | error => "ERROR"
  | warn => "WARN"
  | info => "INFO"
  | debug => "DEBUG"
  | trace => "TRACE"

/-- How many levels are at least as important. -/
def rank : Level → Nat
  | error => 1
  | warn => 2
  | info => 3
  | debug => 4
  | trace => 5

end Level

/-- The part of the library that reports an event. -/
inductive Part where
  | assignment
  | registry
  | layout
  | constants
  | budget
  | pool
  | device
  | compilation
  | request
  deriving DecidableEq, Repr

namespace Part

/-- The name by which log filters select the part. -/
def target : Part → String
  | assignment => "memforge::extractor"
  | registry => "memforge::registry"
  | layout => "memforge::memory::model_builder"
  | constants => "memforge::memory::immutable_block"
  | budget => "memforge::memory::budget"
  | pool => "memforge::memory::pool"
  | device => "memforge::device"
  | compilation => "memforge::network::compiler"
  | request => "memforge::network::infer"

end Part

/-- One report of the library. -/
structure Event where
  /-- How important it is. -/
  level : Level
  /-- Who reports it. -/
  part : Part
  /-- What it says. -/
  message : String
  deriving DecidableEq, Repr

/-- A result together with the events reported on the way to it. -/
structure Noted (ε α : Type) where
  /-- The events, oldest first. -/
  events : List Event
  /-- The value, or the error that stopped the computation. -/
  result : Except ε α

namespace Noted

variable {ε α β : Type}

/-- A value without events. -/
def value (a : α) : Noted ε α := ⟨[], .ok a⟩

/-- A result without events. -/
def ofExcept (result : Except ε α) : Noted ε α := ⟨[], result⟩

/-- Reports events. -/
def noteAll (events : List Event) : Noted ε Unit := ⟨events, .ok ()⟩

/-- Reports one event. -/
def note (event : Event) : Noted ε Unit := noteAll [event]

/-- Goes on with a value; the events of both parts are kept in order, an error stops. -/
def andThen (first : Noted ε α) (next : α → Noted ε β) : Noted ε β :=
  match first.result with
  | .ok a => ⟨first.events ++ (next a).events, (next a).result⟩
  | .error e => ⟨first.events, .error e⟩

instance : Monad (Noted ε) where
  pure := value
  bind := andThen

/-- The function that ends with a value without events leaves a computation as it is. -/
theorem andThen_value (first : Noted ε α) : andThen first value = first := by
  obtain ⟨events, result⟩ := first
  cases result <;> simp [andThen, value]

theorem value_andThen (a : α) (next : α → Noted ε β) : andThen (value a) next = next a := by
  simp [andThen, value]

theorem andThen_assoc {γ : Type} (first : Noted ε α) (next : α → Noted ε β) (last : β → Noted ε γ) :
    andThen (andThen first next) last = andThen first fun a => andThen (next a) last := by
  obtain ⟨events, result⟩ := first
  cases result with
  | error e => rfl
  | ok a =>
    simp only [andThen]
    cases (next a).result <;> simp

instance : LawfulMonad (Noted ε) := LawfulMonad.mk' _ andThen_value value_andThen andThen_assoc

@[simp] theorem result_pure (a : α) : (pure a : Noted ε α).result = .ok a := rfl

@[simp] theorem result_ofExcept (r : Except ε α) : (ofExcept r).result = r := rfl

@[simp] theorem result_noteAll (es : List Event) : (noteAll es : Noted ε Unit).result = .ok () := rfl

@[simp] theorem result_note (e : Event) : (note e : Noted ε Unit).result = .ok () := rfl

theorem result_bind (first : Noted ε α) (next : α → Noted ε β) :
    (first >>= next).result = first.result >>= fun a => (next a).result := by
  cases first with
  | mk events result => cases result <;> rfl

end Noted
end MemoryPlan
