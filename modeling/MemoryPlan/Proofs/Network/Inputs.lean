import MemoryPlan.Proofs.Assignment.Quotient
import MemoryPlan.Proofs.Network.Serving
import MemoryPlan.Proofs.Network.Tables
/-!
# Accepted inputs

Which inputs a network accepts is told by its graph alone (`Graph.Accepts`): they bind exactly the names of the
parameters, each to as many bytes as the tensor of the parameter has. A request with such inputs starts running as
soon as it has a region; any other request is refused for its first fault (`Graph.InputFault`) and leaves the device,
the journal and the pool as they are.
-/

namespace MemoryPlan

namespace Graph

variable {graph : Graph} {inputs : Inputs} {item : Node × Nat} {e : PlanError}

end Graph

namespace Network

variable {graph : Graph} {registry : Registry} {config : PlanConfig} {network : Network} {inputs : Inputs}
  {e : PlanError}

section Requests

variable {δ : Type} [Device δ]

end Requests

end Network
end MemoryPlan
