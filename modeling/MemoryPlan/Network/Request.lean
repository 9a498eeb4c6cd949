import MemoryPlan.Network
/-!
# Requests

A request binds every parameter of a network to bytes and gets the bytes of every result. It runs on one
region of the pool, which goes back on every way out, also when a kernel is broken off.
-/

namespace MemoryPlan

/-- The inputs of a request, by name; each name occurs once. -/
abbrev Inputs := List (String × Bytes)

/-- The outputs of a request, by name, in the order of the result nodes. -/
abbrev Outputs := List (String × Bytes)

namespace Network

/-- Refuses inputs whose names are not those of the parameters. -/
def checkKnown (network : Network) (inputs : Inputs) : Except PlanError Unit :=
  match inputs.find? fun (name, _) => !(network.parameters.any fun b => b.name == name) with
  | some (name, _) => .error (.unknownInput name)
  | none => .ok ()

/-- Refuses a missing input and one of another size than its parameter. -/
def checkBound (inputs : Inputs) (binding : Binding) : Except PlanError Unit :=
  match inputs.lookup binding.name with
  | none => .error (.missingInput binding.name)
  | some data =>
    if data.length = binding.size then .ok ()
    else .error (.executionFailed (.inputSize binding.name data.length binding.size))

/-- Accepts inputs that bind every parameter with its size, and nothing else. -/
def checkInputs (network : Network) (inputs : Inputs) : Except PlanError Unit := do
  network.checkKnown inputs
  network.parameters.forM (checkBound inputs)

/-- The report of a failed operation. -/
def failedEvent (network : Network) (position : Nat) (operation : Operation) (cause : PlanError) :
    Event where
  level := .error
  part := .request
  message :=
    s!"'{network.name}': operation {position} '{operation.name}' ({operation.typeName}) failed: " ++
      cause.message

/-- The report of a finished request. -/
def finishedEvent (network : Network) (slot : Nat) (outputs : Outputs) : Event where
  level := .trace
  part := .request
  message := s!"'{network.name}': request finished on slot {slot} ({outputs.length} outputs)"

/-- What a request on a slot does at a step, given the outputs so far. -/
def runStep (network : Network) (slot : Nat) (inputs : Inputs) (outputs : Outputs)
    (item : Step × Nat) : Program Outputs :=
  match item.1.role with
  | .parameter binding =>
    match inputs.lookup binding.name with
    | none => Program.fail (.missingInput binding.name)
    | some data => do
      let address ← Program.ofExcept (network.pool.resolve slot binding.buffer)
      Program.store address data
      return outputs
  | .result binding => do
    let address ← Program.ofExcept (network.pool.resolve slot binding.buffer)
    let data ← Program.fetch address binding.size
    return outputs ++ [(binding.name, data)]
  | .operation => do
    let operation := item.1.operation
    let reads ← Program.ofExcept (network.pool.resolveAll slot operation.buffers.inputs)
    let writes ← Program.ofExcept (network.pool.resolveAll slot operation.buffers.outputs)
    Program.onError (network.failedEvent item.2 operation)
      (operation.perform ⟨slot, network.ordinal⟩ reads writes)
    return outputs

/-- What a request on a slot does at several steps. -/
def runSteps (network : Network) (slot : Nat) (inputs : Inputs) :
    Outputs → List (Step × Nat) → Program Outputs
  | outputs, [] => .done outputs
  | outputs, item :: rest => do
    let outputs ← network.runStep slot inputs outputs item
    network.runSteps slot inputs outputs rest

/-- The whole program of a request on a slot. -/
def program (network : Network) (slot : Nat) (inputs : Inputs) : Program Outputs := do
  let outputs ← network.runSteps slot inputs [] network.steps.zipIdx
  Program.report (network.finishedEvent slot outputs)
  return outputs

end Network

/-- How a call that serves a request ends. -/
inductive Served (α : Type) where
  /-- With an outcome. -/
  | finished (outcome : Except (Halt PlanError) α)
  /-- It waits for a free region. -/
  | waiting (ticket : Ticket)

namespace Network

variable {δ : Type} [Device δ]

/-- Runs a request on a slot that was taken from the pool, and gives the slot back. -/
def serve (network : Network) (lending : Lending) (slot : Nat) (inputs : Inputs) (site : Site δ) :
    Except (Halt PlanError) Outputs × Lending × Site δ :=
  let (outcome, after) := (network.program slot inputs).run (site.note (Lending.leasedEvent slot))
  let returned := lending.giveBack slot
  (outcome, returned, after.note (Lending.releasedEvent slot returned.available))

/-- Serves a request as soon as a region is free. -/
def infer (network : Network) (inputs : Inputs) (site : Site δ) :
    Served Outputs × Lending × Site δ :=
  match network.checkInputs inputs with
  | .error cause => (.finished (.error (.error cause)), network.pool.lending, site)
  | .ok () =>
    match network.pool.lending.acquire with
    | (.inl slot, lending) =>
      let (outcome, lending, after) := network.serve lending slot inputs site
      (.finished outcome, lending, after)
    | (.inr ticket, lending) => (.waiting ticket, lending, site)

/-- Serves a request if a region is free; else gives up after that many milliseconds. -/
def inferWithin (network : Network) (inputs : Inputs) (ms : Nat) (site : Site δ) :
    Except (Halt PlanError) (Option Outputs) × Lending × Site δ :=
  match network.checkInputs inputs with
  | .error cause => (.error (.error cause), network.pool.lending, site)
  | .ok () =>
    match network.pool.lending.acquireOrLeave with
    | (some slot, lending) =>
      let (outcome, lending, after) := network.serve lending slot inputs site
      (outcome.map some, lending, after)
    | (none, lending) => (.ok none, lending, site.note (Lending.timedOutEvent ms))

/-- Runs a request on a lease that its caller holds; a lease of another pool is refused. -/
def execute (network : Network) (owned : Bool) (slot : Nat) (inputs : Inputs) : Act δ PlanError Outputs :=
  if owned then do
    Act.ofExcept (network.checkInputs inputs)
    (network.program slot inputs).run
  else Act.fail (.invalidConfiguration (.foreignLease slot network.name))

end Network
end MemoryPlan
