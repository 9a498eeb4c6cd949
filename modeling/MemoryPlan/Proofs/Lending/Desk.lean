import MemoryPlan.Session
/-!
# Lending desks

Callers of several pools work side by side, and what a caller does while it holds the lock of a pool is one
move. A `Desk` is a pool's queue together with those who use it: the callers inside a blocking call, each
asleep or awake, and the slots of the leases that are held. A caller whose claim fails goes to sleep; it may
wake up without a reason (`Section.rouse`), and one with a deadline gives up at any time after it. A schedule
is any list of moves, so that it covers every number of callers and every order.
-/

namespace MemoryPlan

/-- A caller inside a blocking call. -/
structure Waiter where
  /-- The ticket that the caller drew. -/
  ticket : Ticket
  /-- Whether the caller has a deadline. -/
  timed : Bool
  /-- Whether the caller runs or was notified; otherwise it sleeps. -/
  awake : Bool
  deriving DecidableEq, Repr

/-- A pool's queue with those who use it. -/
structure Desk where
  /-- The free regions and the tickets. -/
  lending : Lending
  /-- The callers inside a blocking call. -/
  waiters : List Waiter := []
  /-- The slots of the held leases. -/
  leased : List Nat := []
  deriving DecidableEq, Repr

/-- What a caller does while it holds the lock of a pool. -/
inductive Section where
  /-- A new caller draws a ticket and claims; without success it goes to sleep. -/
  | arrive (timed : Bool)
  /-- A new caller whose deadline is over draws a ticket and claims; without success it gives up. -/
  | arriveLate
  /-- A caller that is awake claims again. -/
  | retry (ticket : Ticket)
  /-- A caller whose deadline is over claims once more; without success it gives up. -/
  | expire (ticket : Ticket)
  /-- A sleeping caller wakes up without a reason. -/
  | rouse (ticket : Ticket)
  /-- A caller that would not wait takes a region if nobody waits. -/
  | tryAcquire
  /-- A lease goes back. -/
  | giveBack (slot : Nat)
  deriving DecidableEq, Repr

namespace Desk

/-- All regions of a pool of that size are free, and nobody is there. -/
def opened (count : Nat) : Desk := { lending := .ofCount count }

/-- Wakes all waiting callers if one of them could claim. -/
def notify (desk : Desk) : Desk :=
  if desk.lending.wakes then
    { desk with waiters := desk.waiters.map fun w => { w with awake := true } }
  else desk

/-- A slot was claimed, and the queue is now another one. -/
def lend (desk : Desk) (slot : Nat) (after : Lending) : Desk :=
  { desk with lending := after, leased := desk.leased ++ [slot] }

/-- The caller of a ticket leaves its blocking call. -/
def leave (desk : Desk) (ticket : Ticket) : Desk :=
  { desk with waiters := desk.waiters.filter fun w => w.ticket ≠ ticket }

/-- The caller of a ticket wakes up or goes to sleep. -/
def setAwake (desk : Desk) (ticket : Ticket) (awake : Bool) : Desk :=
  { desk with waiters := desk.waiters.map fun w => if w.ticket = ticket then { w with awake } else w }

/-- A new caller with or without a deadline. -/
def arrive (desk : Desk) (timed : Bool) : Desk :=
  match desk.lending.acquire with
  | (.inl slot, after) => (desk.lend slot after).notify
  | (.inr ticket, after) =>
    { desk with lending := after, waiters := desk.waiters ++ [⟨ticket, timed, false⟩] }

/-- A new caller whose deadline is over. -/
def arriveLate (desk : Desk) : Desk :=
  match desk.lending.acquireOrLeave with
  | (some slot, after) => (desk.lend slot after).notify
  | (none, after) => { desk with lending := after }.notify

/-- A waking caller claims; without success it goes back to sleep. -/
def retry (desk : Desk) (ticket : Ticket) : Desk :=
  if desk.waiters.any fun w => w.ticket = ticket ∧ w.awake then
    match desk.lending.claim? ticket with
    | some (slot, after) => ((desk.leave ticket).lend slot after).notify
    | none => desk.setAwake ticket false
  else desk

/-- A caller claims at its deadline; without success it gives up. -/
def expire (desk : Desk) (ticket : Ticket) : Desk :=
  if desk.waiters.any fun w => w.ticket = ticket ∧ w.timed then
    match desk.lending.claim? ticket with
    | some (slot, after) => ((desk.leave ticket).lend slot after).notify
    | none => { desk.leave ticket with lending := desk.lending.abandon ticket }.notify
  else desk

/-- A caller that would not wait. -/
def tryAcquire (desk : Desk) : Desk :=
  match desk.lending.tryTake? with
  | some (slot, after) => desk.lend slot after
  | none => desk

/-- A held lease goes back. -/
def giveBack (desk : Desk) (slot : Nat) : Desk :=
  if slot ∈ desk.leased then
    { desk with lending := desk.lending.giveBack slot, leased := desk.leased.erase slot }.notify
  else desk

/-- What a critical section does to the desk. -/
def step (desk : Desk) : Section → Desk
  | .arrive timed => desk.arrive timed
  | .arriveLate => desk.arriveLate
  | .retry ticket => desk.retry ticket
  | .expire ticket => desk.expire ticket
  | .rouse ticket => desk.setAwake ticket true
  | .tryAcquire => desk.tryAcquire
  | .giveBack slot => desk.giveBack slot

/-- What a list of critical sections does to the desk. -/
def run (desk : Desk) (sections : List Section) : Desk := sections.foldl step desk

end Desk

/-- Several pools with those who use them. -/
structure Hall where
  /-- The desks, by the number of their pool. -/
  desks : List Desk
  /-- What was reported so far. -/
  reports : List Event := []
  deriving DecidableEq, Repr

/-- A move of a caller in a hall. -/
inductive Move where
  /-- A critical section at a pool. -/
  | work (pool : Nat) (critical : Section)
  /-- A lease is handed to a pool, which need not be its own. -/
  | release (lease : Lease) (through : Nat)
  deriving DecidableEq, Repr

namespace Hall

/-- Pools of those sizes, all free. -/
def opened (counts : List Nat) : Hall := { desks := counts.map Desk.opened }

/-- A pool that is handed a lease of another one reports that; the lease goes back to its own pool. -/
def release (hall : Hall) (lease : Lease) (through : Nat) : Hall where
  desks := hall.desks.modify lease.item fun desk => desk.giveBack lease.slot
  reports :=
    if through = lease.item then hall.reports else hall.reports ++ [Lending.foreignEvent lease.slot]

/-- What a move does to the hall. -/
def step (hall : Hall) : Move → Hall
  | .work pool critical => { hall with desks := hall.desks.modify pool fun desk => desk.step critical }
  | .release lease through => hall.release lease through

/-- What a schedule does to the hall. -/
def run (hall : Hall) (moves : List Move) : Hall := moves.foldl step hall

end Hall
end MemoryPlan
