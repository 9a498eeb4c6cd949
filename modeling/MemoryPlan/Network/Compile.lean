import MemoryPlan.Budget
import MemoryPlan.Network.Plan
/-!
# Compiling networks

`Network.compile` makes the plan of a graph, asks the device for its free memory, and allocates the block
of constants and as many regions as the budget grants. A failure gives back all memory allocated on the
way, and yields no network.
-/

namespace MemoryPlan.Network

variable {δ : Type} [Device δ]

/-- The limits on concurrent requests for a plan on a device with that much free memory. -/
def budgetOf (plan : NetworkPlan) (free streamLimit : Nat) : Budget :=
  Budget.withDeviceLimit
    { free, constants := plan.constants.size, region := plan.transients.layout.size } streamLimit

/-- The report of a finished compilation. -/
def compiledEvent (graph : Graph) (plan : NetworkPlan) (streams : Nat) (requested : StreamCount) :
    Event where
  level := .info
  part := .compilation
  message :=
    s!"Compiled '{graph.name}': {plan.steps.length} operations, {streams} streams " ++
      s!"(requested {requested.text})"

/-- Plans a graph and allocates its memory. -/
def build (graph : Graph) (registry : Registry) (config : PlanConfig) : Act δ PlanError Network := do
  let device ← Act.device
  let ordinal := Device.ordinal device
  let label := Device.label device
  let plan ← Act.ofNoted (NetworkPlan.make graph registry config ordinal label)
  let info ← (Act.query fun device => Device.memoryInfo device).mapError .device
  let budget := budgetOf plan info.free (Device.streamLimit device)
  let streams ← Act.ofNoted (budget.notedStreams config.streams)
  let block ← ConstantBlock.upload plan.constants
  let pool ← RegionPool.create streams block plan.transients.layout
  Act.note (compiledEvent graph plan streams config.streams)
  return ⟨graph.name, label, ordinal, plan.steps, plan.transients.reuse, pool⟩

/-- Marks the beginning and the end of a computation about a network in the journal. -/
def within {ε α : Type} (name : String) (act : Act δ ε α) : Act δ ε α := fun site =>
  let (outcome, after) := act { site with journal := site.journal.push (.enter name) }
  (outcome, { after with journal := after.journal.push (.leave name) })

/-- Makes a graph ready to run on the device; the journal marks what belongs to it. -/
def compile (graph : Graph) (registry : Registry) (config : PlanConfig) : Act δ PlanError Network :=
  within graph.name (build graph registry config)

/-- Gives all memory of a network back. -/
def release (network : Network) (site : Site δ) : Site δ := network.pool.release site

end MemoryPlan.Network
