import MemoryPlan.Config.Document
import MemoryPlan.Document.Printer
import MemoryPlan.Document.Reader
import MemoryPlan.Log.Install
import MemoryPlan.Proofs.Graph.Executable
import MemoryPlan.Proofs.Assignment.Lifespan
import MemoryPlan.Proofs.Lending.Conservation
import MemoryPlan.Proofs.Lending.Wakeup
import MemoryPlan.Proofs.Network.Atomicity
import MemoryPlan.Proofs.Network.Racing
import MemoryPlan.Proofs.Network.Leases
import MemoryPlan.Proofs.Constant.Stored
import MemoryPlan.Proofs.Network.Answers
import MemoryPlan.Proofs.Session.Balance
import MemoryPlan.Proofs.Device.Arrays
import MemoryPlan.Proofs.Device.Buffers
import MemoryPlan.Proofs.Log.Installed
import MemoryPlan.Proofs.Network.Inputs
import MemoryPlan.Proofs.Network.Refusals
import MemoryPlan.Proofs.Transient.Checked
import MemoryPlan.Proofs.Transient.Plain
import MemoryPlan.Proofs.Transient.Slots
import MemoryPlan.Proofs.Transient.Ledger
import MemoryPlan.Proofs.Transient.Reordered
import MemoryPlan.Proofs.Assignment.Supported
import MemoryPlan.Proofs.Assignment.Quotient
import MemoryPlan.Proofs.StreamCount
import MemoryPlan.Proofs.Tensor
import MemoryPlan.Proofs.Config
import MemoryPlan.Proofs.Rounding.Least
