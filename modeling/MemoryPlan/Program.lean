import MemoryPlan.Device
/-!
# Programs

A program is what a request or a kernel does to a device: it reads and writes bytes, step by step, and
ends with a value or early. Programs are trees, so one can look at a single step: two programs can be
interleaved, and `Program.run` performs one alone. Reading or writing no bytes never reaches the device.
-/

namespace MemoryPlan

/-- A computation that reads and writes device memory. -/
inductive Program (α : Type) where
  /-- The end, with a value. -/
  | done (value : α)
  /-- The early end. -/
  | stop (halt : Halt PlanError)
  /-- Reads bytes at an address and goes on with them, or with the fault of the device. -/
  | read (address : Address) (length : Nat) (next : Except DeviceFault Bytes → Program α)
  /-- Writes bytes at an address and goes on, or goes on with the fault of the device. -/
  | write (address : Address) (data : Bytes) (next : Except DeviceFault Unit → Program α)
  /-- Reports an event and goes on. -/
  | note (event : Event) (next : Program α)

namespace Program

variable {α β δ : Type}

/-- Goes on with the value of a program. -/
def andThen (next : α → Program β) : Program α → Program β
  | done value => next value
  | stop halt => stop halt
  | read address length more => read address length fun outcome => andThen next (more outcome)
  | write address data more => write address data fun outcome => andThen next (more outcome)
  | note event more => note event (andThen next more)

instance : Monad Program where
  pure := done
  bind program next := andThen next program

theorem andThen_done (program : Program α) : andThen done program = program := by
  induction program with
  | done value => rfl
  | stop halt => rfl
  | read address length next ih => simp [andThen, ih]
  | write address data next ih => simp [andThen, ih]
  | note event next ih => simp [andThen, ih]

theorem done_andThen (a : α) (next : α → Program β) : andThen next (done a) = next a := rfl

theorem andThen_assoc {γ : Type} (program : Program α) (next : α → Program β) (last : β → Program γ) :
    andThen last (andThen next program) = andThen (fun a => andThen last (next a)) program := by
  induction program with
  | done value => rfl
  | stop halt => rfl
  | read address length more ih => simp [andThen, ih]
  | write address data more ih => simp [andThen, ih]
  | note event more ih => simp [andThen, ih]

instance : LawfulMonad Program := LawfulMonad.mk' _ andThen_done done_andThen andThen_assoc

/-- Ends with an error. -/
def fail (cause : PlanError) : Program α := stop (.error cause)

/-- The result of a computation without effects. -/
def ofExcept : Except PlanError α → Program α
  | .ok a => done a
  | .error cause => fail cause

/-- Goes on with a value, or ends with the fault of the device. -/
def orFail (next : α → Program β) : Except DeviceFault α → Program β
  | .ok a => next a
  | .error fault => fail (.device fault)

/-- Reads bytes, or ends with the fault of the device. -/
def fetch (address : Address) (length : Nat) : Program Bytes :=
  if length = 0 then done [] else read address length (orFail done)

/-- Writes bytes, or ends with the fault of the device. -/
def store (address : Address) (data : Bytes) : Program Unit :=
  if data.isEmpty then done () else write address data (orFail done)

/-- Reports an event. -/
def report (event : Event) : Program Unit := note event (done ())

/-- Reports the error of a program that ends with one; a crash is not reported. -/
def onError (report : PlanError → Event) : Program α → Program α
  | done value => done value
  | stop (.error cause) => note (report cause) (stop (.error cause))
  | stop (.crash reason) => stop (.crash reason)
  | read address length next => read address length fun outcome => onError report (next outcome)
  | write address data next => write address data fun outcome => onError report (next outcome)
  | note event next => note event (onError report next)

/-- The outcome of a device operation as a program sees it: a fault can be handled, a crash cannot. -/
def seen : Except (Halt DeviceFault) β → Except String (Except DeviceFault β)
  | .ok b => .ok (.ok b)
  | .error (.error fault) => .ok (.error fault)
  | .error (.crash reason) => .error reason

/-- Performs a program alone on a device. -/
def run [Device δ] : Program α → Act δ PlanError α
  | done value => Act.value value
  | stop halt => fun site => (.error halt, site)
  | read address length next => fun site =>
    let (outcome, device) := Device.copyOut site.device address length
    match seen outcome with
    | .ok result => run (next result) { site with device }
    | .error reason => (.error (.crash reason), { site with device })
  | write address data next => fun site =>
    let (outcome, device) := Device.copyIn site.device address data
    match seen outcome with
    | .ok result => run (next result) { site with device }
    | .error reason => (.error (.crash reason), { site with device })
  | note event next => fun site => run next (site.note event)

/-- To run two programs one after the other is to run the first and, at its value, the second. -/
theorem run_bind [Device δ] (program : Program α) (next : α → Program β) :
    (program >>= next).run (δ := δ) = program.run >>= fun a => (next a).run := by
  funext site
  simp only [bind]
  induction program generalizing site with
  | done value => rfl
  | stop halt => rfl
  | read address length more ih =>
    simp only [andThen, run, Act.andThen]
    split <;> simp_all [Act.andThen]
  | write address data more ih =>
    simp only [andThen, run, Act.andThen]
    split <;> simp_all [Act.andThen]
  | note event more ih =>
    simp only [andThen, run, Act.andThen]
    exact ih _

end Program
end MemoryPlan
