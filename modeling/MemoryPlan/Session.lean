import MemoryPlan.Network.Compile
import MemoryPlan.Network.Request
/-!
# Sessions

A session owns devices, the pools and networks made on them, the leases that its callers hold by name, and
the callers that wait for a region. `Session.step` performs one command and yields its reply; nothing in a
session blocks: a caller that has to wait is kept in the queue, and the command that gives a region back
hands it to the oldest waiting caller.
-/

namespace MemoryPlan

/-- Memory that requests can be served from. -/
inductive Item where
  /-- A pool of its own, on the device of that index. -/
  | pool (device : Nat) (pool : RegionPool)
  /-- A network with its pool, on the device of that index. -/
  | network (device : Nat) (network : Network)

namespace Item

/-- The index of the device. -/
def device : Item → Nat
  | .pool index _ => index
  | .network index _ => index

/-- The pool, or the pool of the network. -/
def regions : Item → RegionPool
  | .pool _ own => own
  | .network _ made => made.pool

/-- Changes which regions are free. -/
def withLending (lending : Lending) : Item → Item
  | .pool index own => .pool index { own with lending }
  | .network index made => .network index (made.withLending lending)

end Item

/-- A region that a caller holds. -/
structure Lease where
  /-- The item whose pool the region belongs to. -/
  item : Nat
  /-- The region. -/
  slot : Nat
  deriving DecidableEq, Repr

/-- A caller that waits for a region. -/
structure Caller where
  /-- The name that the lease will get. -/
  name : String
  /-- The item whose pool the caller waits for. -/
  item : Nat
  /-- The ticket that the caller drew. -/
  ticket : Ticket
  deriving DecidableEq, Repr

/-- Devices, what was made on them, and who uses it. -/
structure Session (δ : Type) where
  /-- The devices. -/
  devices : List δ
  /-- Pools and networks; the place of one that could not be made stays empty. -/
  items : List (Option Item) := []
  /-- The held leases by name. -/
  leases : List (String × Lease) := []
  /-- The waiting callers. -/
  callers : List Caller := []
  /-- What was reported so far. -/
  journal : Journal := {}

/-- What a lease is. -/
structure LeaseReport where
  /-- The region's number. -/
  slot : Nat
  /-- The region's address. -/
  address : Address
  /-- The region. -/
  region : Except PlanError DeviceBuffer
  /-- For each item, whether the lease is one of its pool; absent for an empty place. -/
  owners : List (Option Bool)
  /-- The lease as records show it. -/
  shown : String

/-- What a session can be asked to do. Items are named by their number and leases by their name. -/
inductive Command where
  /-- A new caller wants a region and waits if none is free. -/
  | acquire (on : Nat) (name : String)
  /-- A new caller wants a region only if it need not wait. -/
  | tryAcquire (on : Nat) (name : String)
  /-- A new caller wants a region and gives up after that many milliseconds. -/
  | acquireWithin (on : Nat) (name : String) (ms : Nat)
  /-- A lease goes back, by hand through the pool of an item if one is named. -/
  | release (lease : String) (through : Option Nat)
  /-- What is this lease? -/
  | describe (lease : String)
  /-- Where does this lease find these buffers? -/
  | resolve (lease : String) (ids : List BufferId)
  /-- Writes into the region of a lease. -/
  | poke (lease : String) (offset : Nat) (data : Bytes)
  /-- Reads from the region of a lease. -/
  | peek (lease : String) (offset length : Nat)
  /-- Writes at an address of a device. -/
  | write (device : Nat) (address : Address) (data : Bytes)
  /-- Reads at an address of a device. -/
  | read (device : Nat) (address : Address) (length : Nat)
  /-- Frees an address of a device. -/
  | free (device : Nat) (address : Address)
  /-- What is the pool of this item? -/
  | inspect (on : Nat)
  /-- Serves a request, if a region is free. -/
  | infer (on : Nat) (inputs : Inputs)
  /-- Serves a request, or gives up after that many milliseconds. -/
  | inferWithin (on : Nat) (ms : Nat) (inputs : Inputs)
  /-- Runs a request on a held lease. -/
  | execute (on : Nat) (lease : String) (inputs : Inputs)
  /-- Serves several requests, if a region is free. -/
  | inferMany (on : Nat) (requests : List Inputs)

/-- The reply to a command. -/
inductive Reply where
  /-- No lease of that name is held. -/
  | noLease
  /-- The place of the item is empty. -/
  | noItem
  /-- A region was lent. -/
  | leased (slot : Nat)
  /-- The caller waits. -/
  | queued
  /-- The caller did without. -/
  | refused
  /-- The waiting callers that got a region, with their regions. -/
  | granted (callers : List (String × Nat))
  /-- What a lease is. -/
  | described (report : LeaseReport)
  /-- The address of each buffer, and those of all together. -/
  | resolved (each : List (Except PlanError Address)) (all : Except PlanError (List Address))
  /-- The outcome of a write. -/
  | written (outcome : Except (Halt DeviceFault) Unit)
  /-- The outcome of a read. -/
  | fetched (outcome : Except (Halt DeviceFault) Bytes)
  /-- A pool as it is. -/
  | pool (pool : RegionPool)
  /-- The request was not begun, since it would have to wait. -/
  | wouldWait
  /-- The outcome of a request. -/
  | served (outcome : Except (Halt PlanError) Outputs)
  /-- The outcome of a request that may have given up. -/
  | servedWithin (outcome : Except (Halt PlanError) (Option Outputs))
  /-- The outcomes of several requests; absent for one that would have to wait. -/
  | servedMany (outcomes : List (Option (Except (Halt PlanError) Outputs)))

namespace Session

variable {δ : Type} [Device δ]

/-- The item of a number, if its place is not empty. -/
def item? (session : Session δ) (on : Nat) : Option Item := (session.items[on]?).join

/-- Reports an event. -/
def note (session : Session δ) (event : Event) : Session δ :=
  { session with journal := session.journal.push (.event event) }

/-- Lets another caller work: what is reported then is reported elsewhere. -/
def byOther {α : Type} (session : Session δ) (work : Session δ → α × Session δ) : α × Session δ :=
  let (answer, after) := work { session with journal := {} }
  (answer, { after with journal := session.journal.appendOther after.journal })

/-- Works on a device of the session; there is no answer if there is no such device. -/
def visit {α : Type} (session : Session δ) (device : Nat) (work : Site δ → α × Site δ) :
    Option α × Session δ :=
  match session.devices[device]? with
  | none => (none, session)
  | some present =>
    let (answer, after) := work ⟨present, session.journal⟩
    (some answer,
      { session with devices := session.devices.set device after.device, journal := after.journal })

/-- Changes which regions of an item are free. -/
def setLending (session : Session δ) (on : Nat) (lending : Lending) : Session δ :=
  { session with items := session.items.modify on (Option.map (Item.withLending lending)) }

/-- Puts a new item, or an empty place, at the end. -/
def addItem (session : Session δ) (item : Option Item) : Session δ :=
  { session with items := session.items ++ [item] }

/-- Gives a name to a region that was just lent, as its own caller reports. -/
def holdFor (session : Session δ) (name : String) (lease : Lease) : Session δ :=
  { session with
    journal := session.journal.push (.elsewhere (Lending.leasedEvent lease.slot))
    leases := session.leases ++ [(name, lease)] }

/-- Gives a name to a region that was just lent. -/
def hold (session : Session δ) (name : String) (lease : Lease) : Session δ :=
  let noted := session.note (Lending.leasedEvent lease.slot)
  { noted with leases := noted.leases ++ [(name, lease)] }

/-- The waiting caller with the oldest ticket takes a free region, if there is one. -/
def handOver (session : Session δ) (on : Nat) (lending : Lending) :
    List (String × Nat) × Session δ :=
  match lending.waiting with
  | [] => ([], session)
  | ticket :: _ =>
    match lending.claim? ticket, session.callers.find? fun c => c.item = on ∧ c.ticket = ticket with
    | some (slot, after), some caller =>
      let remaining := session.callers.filter fun c => ¬(c.item = on ∧ c.ticket = ticket)
      let served := ({ session with callers := remaining }.setLending on after).holdFor caller.name ⟨on, slot⟩
      ([(caller.name, slot)], served)
    | _, _ => ([], session)

/-- A lease goes back to its own pool; the oldest waiting caller takes over. -/
def drop (session : Session δ) (name : String) (lease : Lease) : List (String × Nat) × Session δ :=
  let freed := { session with leases := session.leases.filter fun (other, _) => other ≠ name }
  match freed.item? lease.item with
  | none => ([], freed)
  | some item =>
    let lending := item.regions.lending.giveBack lease.slot
    ((freed.setLending lease.item lending).note
      (Lending.releasedEvent lease.slot lending.available)).handOver lease.item lending

/-- The report about a lease. -/
def report (session : Session δ) (lease : Lease) (item : Item) : LeaseReport where
  slot := lease.slot
  address := item.regions.regionAddress lease.slot
  region := item.regions.region lease.slot
  owners := session.items.zipIdx.map fun (other, i) => other.map fun _ => i == lease.item
  shown := item.regions.shownLease lease.slot

/-- The outcome of a plain write or read as a reply. -/
def replyOr {α : Type} (write : α → Reply) : Option α → Reply
  | none => .noItem
  | some answer => write answer

/-- A device operation as a visit. -/
def deviceCall {α : Type} (session : Session δ) (device : Nat) (act : Act δ DeviceFault α)
    (write : Except (Halt DeviceFault) α → Reply) : Reply × Session δ :=
  let (answer, after) := session.visit device act
  (replyOr write answer, after)

/-- Serves a request on a network; a request that would have to wait leaves the queue again. -/
def serve (session : Session δ) (on device : Nat) (network : Network) (inputs : Inputs) :
    Option (Except (Halt PlanError) Outputs) × Session δ :=
  let work (site : Site δ) : (Option (Except (Halt PlanError) Outputs) × Lending) × Site δ :=
    match network.infer inputs site with
    | (.finished outcome, lending, after) => ((some outcome, lending), after)
    | (.waiting ticket, lending, after) => ((none, lending.abandon ticket), after)
  match session.visit device work with
  | (some (outcome, lending), after) => (outcome, after.setLending on lending)
  | (none, after) => (none, after)

/-- Serves several requests, one after the other, each by a caller of its own. -/
def serveAll (on : Nat) :
    Session δ → List Inputs → List (Option (Except (Halt PlanError) Outputs)) × Session δ
  | session, [] => ([], session)
  | session, inputs :: rest =>
    let (outcome, after) := match session.item? on with
      | some (.network device network) =>
        session.byOther fun alone => alone.serve on device network inputs
      | _ => (none, session)
    let (outcomes, final) := serveAll on after rest
    (outcome :: outcomes, final)

/-- A command about a lease, which must be held, and whose item must be there. -/
def withLease (session : Session δ) (name : String) (next : Lease → Item → Reply × Session δ) :
    Reply × Session δ :=
  match session.leases.lookup name with
  | none => (.noLease, session)
  | some lease =>
    match session.item? lease.item with
    | none => (.noItem, session)
    | some item => next lease item

/-- A command about an item, whose place must not be empty. -/
def withItem (session : Session δ) (on : Nat) (next : Item → Reply × Session δ) : Reply × Session δ :=
  match session.item? on with
  | none => (.noItem, session)
  | some item => next item

/-- A command about a network. -/
def withNetwork (session : Session δ) (on : Nat) (next : Nat → Network → Reply × Session δ) :
    Reply × Session δ :=
  match session.item? on with
  | some (.network device network) => next device network
  | _ => (.noItem, session)

/-- A new caller wants a region of an item. -/
def acquire (session : Session δ) (on : Nat) (name : String) : Reply × Session δ :=
  session.withItem on fun item =>
    match item.regions.lending.acquire with
    | (.inl slot, lending) => (.leased slot, (session.setLending on lending).holdFor name ⟨on, slot⟩)
    | (.inr ticket, lending) =>
      (.queued, { session.setLending on lending with callers := session.callers ++ [⟨name, on, ticket⟩] })

/-- A caller wants a region of an item only if it need not wait. -/
def tryAcquire (session : Session δ) (on : Nat) (name : String) : Reply × Session δ :=
  session.withItem on fun item =>
    match item.regions.lending.tryTake? with
    | some (slot, lending) => (.leased slot, (session.setLending on lending).hold name ⟨on, slot⟩)
    | none => (.refused, session)

/-- A caller wants a region of an item and gives up after a time. -/
def acquireWithin (session : Session δ) (on : Nat) (name : String) (ms : Nat) : Reply × Session δ :=
  session.withItem on fun item =>
    match item.regions.lending.acquireOrLeave with
    | (some slot, lending) => (.leased slot, (session.setLending on lending).hold name ⟨on, slot⟩)
    | (none, lending) => (.refused, (session.setLending on lending).note (Lending.timedOutEvent ms))

/-- A lease goes back; giving it back through another pool is reported. -/
def release (session : Session δ) (name : String) (through : Option Nat) : Reply × Session δ :=
  session.withLease name fun lease _ =>
    match through with
    | none =>
      let (granted, after) := session.drop name lease
      (.granted granted, after)
    | some on =>
      session.withItem on fun _ =>
        let noted := if on = lease.item then session else session.note (Lending.foreignEvent lease.slot)
        let (granted, after) := noted.drop name lease
        (.granted granted, after)

/-- Works on the region of a lease. -/
def onRegion {α : Type} (session : Session δ) (name : String)
    (act : DeviceBuffer → Act δ DeviceFault α) (write : Except (Halt DeviceFault) α → Reply) :
    Reply × Session δ :=
  session.withLease name fun lease item =>
    match item.regions.region? lease.slot with
    | none => (.noItem, session)
    | some region => session.deviceCall item.device (act region) write

/-- Serves a request, or gives up after a time. -/
def inferWithin (session : Session δ) (on device : Nat) (network : Network) (ms : Nat)
    (inputs : Inputs) : Reply × Session δ :=
  let work (site : Site δ) : (Except (Halt PlanError) (Option Outputs) × Lending) × Site δ :=
    let (outcome, lending, after) := network.inferWithin inputs ms site
    ((outcome, lending), after)
  match session.visit device work with
  | (some (outcome, lending), after) => (.servedWithin outcome, after.setLending on lending)
  | (none, after) => (.noItem, after)

/-- Performs a command. -/
def step (session : Session δ) : Command → Reply × Session δ
  | .acquire on name => session.acquire on name
  | .tryAcquire on name => session.tryAcquire on name
  | .acquireWithin on name ms => session.acquireWithin on name ms
  | .release lease through => session.release lease through
  | .describe lease =>
    session.withLease lease fun held item => (.described (session.report held item), session)
  | .resolve lease ids =>
    session.withLease lease fun held item =>
      (.resolved (ids.map (item.regions.resolve held.slot)) (item.regions.resolveAll held.slot ids), session)
  | .poke lease offset data => session.onRegion lease (fun region => region.copyIn offset data) .written
  | .peek lease offset length =>
    session.onRegion lease (fun region => region.copyOut offset length) .fetched
  | .write device address data =>
    session.deviceCall device (Act.call fun d => Device.copyIn d address data) .written
  | .read device address length =>
    session.deviceCall device (Act.call fun d => Device.copyOut d address length) .fetched
  | .free device address => session.deviceCall device (Act.query fun d => Device.free d address) .written
  | .inspect on => session.withItem on fun item => (.pool item.regions, session)
  | .infer on inputs =>
    session.withNetwork on fun device network =>
      if network.pool.available = 0 then (.wouldWait, session)
      else
        let (outcome, after) := session.serve on device network inputs
        (((outcome.map Reply.served).getD .wouldWait), after)
  | .inferWithin on ms inputs =>
    session.withNetwork on fun device network => session.inferWithin on device network ms inputs
  | .execute on lease inputs =>
    session.withLease lease fun held _ =>
      session.withNetwork on fun device network =>
        let (answer, after) := session.visit device (network.execute (held.item == on) held.slot inputs)
        (replyOr .served answer, after)
  | .inferMany on requests =>
    session.withNetwork on fun _ network =>
      if network.pool.available = 0 then (.wouldWait, session)
      else
        let (outcomes, after) := session.serveAll on requests
        (.servedMany outcomes, after)

/-- The held lease of the smallest name. -/
def smallestLease? (session : Session δ) : Option (String × Lease) :=
  (session.leases.mergeSort fun a b => a.1 ≤ b.1).head?

/-- Gives all leases back, the smallest name first; each hand-over may add one. At most `fuel` leases go
back. -/
def dropLeases : Nat → Session δ → List (String × List (String × Nat)) × Session δ
  | 0, session => ([], session)
  | fuel + 1, session =>
    match session.smallestLease? with
    | none => ([], session)
    | some (name, lease) =>
      let (granted, after) := session.drop name lease
      let (others, final) := dropLeases fuel after
      ((name, granted) :: others, final)

/-- Gives all leases back: those held, and those of the callers that still wait. -/
def closeLeases (session : Session δ) : List (String × List (String × Nat)) × Session δ :=
  dropLeases (session.leases.length + session.callers.length) session

/-- Gives the memory of an item back. -/
def releaseItem (session : Session δ) (on : Nat) : Session δ :=
  match session.item? on with
  | none => session
  | some item => (session.visit item.device fun site => ((), item.regions.release site)).2

/-- The constants that a pool of its own is made with. -/
structure ConstantRequest where
  /-- The alignment in bytes; none for the usual one. -/
  alignment : Option Nat := none
  /-- The constants. -/
  items : List (BufferId × Bytes) := []

/-- The transient buffers that a pool of its own is made with. -/
structure TransientRequest where
  /-- The alignment in bytes; none for the usual one. -/
  alignment : Option Nat := none
  /-- The buffers. -/
  items : List Transient := []

/-- An alignment that may be left out. -/
def alignmentOf : Option Nat → Except PlanError Alignment
  | none => .ok .byte
  | some bytes => Alignment.ofBytes? bytes

/-- Packs the constants of a request into a block. -/
def blockFor : Option ConstantRequest → Act δ PlanError ConstantBlock
  | none => pure .empty
  | some request => do
    let alignment ← Act.ofExcept (alignmentOf request.alignment)
    let progress := ConstantSet.addAll { alignment } request.items
    Act.log (progress.reached.events.map .event)
    let set ← Act.ofExcept progress.result
    ConstantBlock.upload set

/-- Lays out the transient buffers of a request. -/
def layoutFor : Option TransientRequest → Act δ PlanError Layout
  | none => pure .empty
  | some request => do
    let alignment ← Act.ofExcept (alignmentOf request.alignment)
    let progress := TransientSet.addAll { alignment } request.items
    Act.log (progress.reached.events.map .event)
    let set ← Act.ofExcept progress.result
    return set.layout

/-- Makes a pool of its own: the block, the layout, then the regions. A failure gives the block back. -/
def poolFor (streams : Nat) (constants : Option ConstantRequest) (transients : Option TransientRequest) :
    Act δ PlanError RegionPool := do
  let block ← blockFor constants
  let layout ← (layoutFor transients).orUndo block.release
  RegionPool.create streams block layout

/-- Makes an item on a device and puts it, or an empty place, at the end. -/
def addMade {α : Type} (session : Session δ) (device : Nat) (make : Act δ PlanError α)
    (item : α → Item) : Except (Halt PlanError) α × Session δ :=
  match session.visit device make with
  | (some (.ok made), after) => (.ok made, after.addItem (some (item made)))
  | (some (.error halt), after) => (.error halt, after.addItem none)
  | (none, after) => (.error (.error (.device .notFound)), after.addItem none)

end Session
end MemoryPlan
