import MemoryPlan.StreamCount
import MemoryPlan.Event
/-!
# Stream budgets

How many requests may run side by side: as many transient regions as fit beside the constant block, but
no more than the device runs at once and no more than were asked for.
-/

namespace MemoryPlan

/-- The numbers that bound the count of concurrent requests. -/
structure Budget where
  /-- Free bytes of the device. -/
  free : Nat
  /-- Bytes of the constant block. -/
  constants : Nat
  /-- Bytes of one transient region. -/
  region : Nat
  /-- How many requests the device runs at once. -/
  deviceLimit : Nat := 1
  deriving DecidableEq, Repr

namespace Budget

/-- Sets how many requests the device runs at once; a limit of zero counts as one. -/
def withDeviceLimit (budget : Budget) (limit : Nat) : Budget :=
  { budget with deviceLimit := max limit 1 }

/-- How many regions fit beside the constant block; an empty region and a bound of zero are refused. -/
def memoryBound (budget : Budget) : Except PlanError Nat :=
  if budget.region = 0 then .error .modelNotLoaded
  else
    let bound := (budget.free - budget.constants) / budget.region
    if bound = 0 then .error (.insufficientMemory budget.free budget.constants budget.region)
    else .ok bound

/-- The number of regions to allocate, given how many fit. -/
def grant (budget : Budget) (requested : StreamCount) (bound : Nat) : Nat :=
  match requested with
  | .auto => min budget.deviceLimit bound
  | .fixed count _ _ => min (min budget.deviceLimit count) bound

/-- The number of regions to allocate for a request. -/
def streams (budget : Budget) (requested : StreamCount) : Except PlanError Nat :=
  budget.memoryBound.map (budget.grant requested)

/-- The report of a granted number. -/
def report (budget : Budget) (requested : StreamCount) (bound : Nat) : Event where
  level := .debug
  part := .budget
  message :=
    s!"Stream budget: free={budget.free} const={budget.constants} transient={budget.region} " ++
      s!"device_max={budget.deviceLimit} memory_bound={bound} requested={requested.text} " ++
      s!"-> {budget.grant requested bound}"

/-- The number of regions for a request, with the report of it. -/
def notedStreams (budget : Budget) (requested : StreamCount) : Noted PlanError Nat := do
  let bound ← Noted.ofExcept budget.memoryBound
  Noted.note (budget.report requested bound)
  return budget.grant requested bound

end Budget
end MemoryPlan
