import MemoryPlan.Event
/-!
# Lending

The queue of a pool of numbered regions. A caller that wants a region draws a ticket; only the oldest
ticket may claim a free region, and a caller that gives up leaves with its own ticket only. Regions that
come back go to the end of the free ones.
-/

namespace MemoryPlan

/-- The number that a waiting caller draws. -/
abbrev Ticket := Nat

/-- The free regions of a pool and the callers that wait for one. -/
structure Lending where
  /-- The free regions; the first is lent next. -/
  free : List Nat := []
  /-- The tickets of the waiting callers, oldest first. -/
  waiting : List Ticket := []
  /-- The next ticket to be drawn. -/
  nextTicket : Ticket := 0
  deriving DecidableEq, Repr

namespace Lending

/-- All of that many regions are free, and nobody waits. -/
def ofCount (count : Nat) : Lending := { free := List.range count }

/-- How many regions are free. -/
def available (lending : Lending) : Nat := lending.free.length

/-- A new caller draws a ticket and waits last. -/
def enqueue (lending : Lending) : Ticket × Lending :=
  (lending.nextTicket,
    { lending with
      waiting := lending.waiting ++ [lending.nextTicket]
      nextTicket := lending.nextTicket + 1 })

/-- The oldest waiting caller takes the first free region. -/
def claim? (lending : Lending) (ticket : Ticket) : Option (Nat × Lending) :=
  match lending.waiting, lending.free with
  | oldest :: others, slot :: rest =>
    if oldest = ticket then some (slot, { lending with free := rest, waiting := others }) else none
  | _, _ => none

/-- A waiting caller gives up. -/
def abandon (lending : Lending) (ticket : Ticket) : Lending :=
  { lending with waiting := lending.waiting.filter (· ≠ ticket) }

/-- A caller that would not wait takes the first free region if nobody waits. -/
def tryTake? (lending : Lending) : Option (Nat × Lending) :=
  match lending.waiting, lending.free with
  | [], slot :: rest => some (slot, { lending with free := rest })
  | _, _ => none

/-- A region comes back. -/
def giveBack (lending : Lending) (slot : Nat) : Lending :=
  { lending with free := lending.free ++ [slot] }

/-- Whether waiting callers are to be woken: somebody waits and a region is free. -/
def wakes (lending : Lending) : Bool := !lending.waiting.isEmpty && !lending.free.isEmpty

/-- A ticket claims a region exactly when it is the oldest and a region is free. -/
theorem claim?_eq_some {lending after : Lending} {ticket : Ticket} {slot : Nat} :
    lending.claim? ticket = some (slot, after) ↔
      ∃ others rest, lending.waiting = ticket :: others ∧ lending.free = slot :: rest ∧
        after = { lending with free := rest, waiting := others } := by
  grind [claim?]

/-- A caller that would not wait gets a region exactly when nobody waits and one is free. -/
theorem tryTake?_eq_some {lending after : Lending} {slot : Nat} :
    lending.tryTake? = some (slot, after) ↔
      ∃ rest, lending.waiting = [] ∧ lending.free = slot :: rest ∧
        after = { lending with free := rest } := by
  grind [tryTake?]

/-- A new caller draws a ticket and claims at once; without success it keeps waiting. -/
def acquire (lending : Lending) : (Nat ⊕ Ticket) × Lending :=
  let (ticket, queued) := lending.enqueue
  match queued.claim? ticket with
  | some (slot, after) => (.inl slot, after)
  | none => (.inr ticket, queued)

/-- A new caller draws a ticket and claims at once; without success it gives up. -/
def acquireOrLeave (lending : Lending) : Option Nat × Lending :=
  let (ticket, queued) := lending.enqueue
  match queued.claim? ticket with
  | some (slot, after) => (some slot, after)
  | none => (none, queued.abandon ticket)

/-- The report of a lent region. -/
def leasedEvent (slot : Nat) : Event where
  level := .trace
  part := .pool
  message := s!"MemoryManagerPool: leased slot {slot}"

/-- The report of a region that came back. -/
def releasedEvent (slot available : Nat) : Event where
  level := .trace
  part := .pool
  message := s!"MemoryManagerPool: released slot {slot} ({available} available)"

/-- A whole number of milliseconds in words: no time in the smallest unit, less than a second in
milliseconds, and all else in seconds without trailing zeros. -/
def shownMilliseconds (ms : Nat) : String :=
  if ms = 0 then "0ns"
  else if ms < 1000 then s!"{ms}ms"
  else
    let places := (toString (1000 + ms % 1000)).toList.drop 1
    let decimals := (places.reverse.dropWhile (· == '0')).reverse
    let point := if decimals.isEmpty then "" else "."
    s!"{ms / 1000}{point}{String.ofList decimals}s"

/-- The report of a caller that gave up. -/
def timedOutEvent (ms : Nat) : Event where
  level := .debug
  part := .pool
  message := s!"MemoryManagerPool: acquire timed out after {shownMilliseconds ms}"

/-- The report of a region that is given back through another pool. -/
def foreignEvent (slot : Nat) : Event where
  level := .warn
  part := .pool
  message := s!"MemoryManagerPool::release: manager {slot} belongs to another pool"

end Lending
end MemoryPlan
