import Mathlib.Data.List.Perm.Subperm
import MemoryPlan.Proofs.Lending.Desk
/-!
# Queues of desks

Every ticket that was drawn is settled once: it is granted a region, or its caller gives up (`Desk.fate?`).
The tickets that are not settled wait in the order in which they were drawn, each with one caller inside a
blocking call. So a ticket is granted only after all earlier ones were settled.
-/

namespace MemoryPlan

namespace Lending

variable {lending after : Lending} {ticket : Ticket} {slot : Nat}

/-- A ticket claims nothing exactly when it is not the oldest or no region is free. -/
theorem claim?_eq_none :
    lending.claim? ticket = none ↔ (lending.waiting.head? = some ticket → lending.free = []) := by
  unfold claim?
  cases lending.waiting <;> cases lending.free <;> simp

/-- The waiting tickets were drawn one after the other. -/
structure Ordered (lending : Lending) : Prop where
  /-- The oldest ticket comes first. -/
  ascending : lending.waiting.Pairwise (· < ·)
  /-- Every ticket was drawn. -/
  drawn : ∀ ticket ∈ lending.waiting, ticket < lending.nextTicket

/-- A new caller that gets a region at once found nobody waiting. -/
theorem Ordered.acquire_inl (ho : lending.Ordered) (h : lending.acquire = (.inl slot, after)) :
    lending.waiting = [] ∧
      ∃ rest, lending.free = slot :: rest ∧ after = ⟨rest, [], lending.nextTicket + 1⟩ := by
  unfold acquire at h
  dsimp only [enqueue] at h
  split at h
  · next hclaim =>
    cases h
    obtain ⟨others, rest, hqueue, hfree, rfl⟩ := claim?_eq_some.mp hclaim
    dsimp only at hqueue hfree
    cases hwaiting : lending.waiting with
    | nil =>
      rw [hwaiting] at hqueue
      obtain ⟨-, rfl⟩ := List.cons.inj hqueue
      exact ⟨rfl, rest, hfree, rfl⟩
    | cons oldest more =>
      -- the new ticket is not the oldest, since it is greater than every waiting one
      rw [hwaiting, List.cons_append] at hqueue
      obtain ⟨rfl, -⟩ := List.cons.inj hqueue
      have hdrawn : lending.nextTicket < lending.nextTicket := by
        apply ho.drawn
        rw [hwaiting]
        exact List.mem_cons_self ..
      exact absurd hdrawn (Nat.lt_irrefl _)
  · cases h

/-- A new caller that gets no region waits last. -/
theorem acquire_inr (h : lending.acquire = (.inr ticket, after)) :
    ticket = lending.nextTicket ∧
      after = ⟨lending.free, lending.waiting ++ [lending.nextTicket], lending.nextTicket + 1⟩ ∧
      (lending.waiting = [] → lending.free = []) := by
  unfold acquire at h
  dsimp only [enqueue] at h
  split at h
  · cases h
  · next hclaim =>
    cases h
    refine ⟨rfl, rfl, ?_⟩
    intro hempty
    apply claim?_eq_none.mp hclaim
    dsimp only
    rw [hempty]
    rfl

/-- A late caller that gets a region found nobody waiting. -/
theorem Ordered.acquireOrLeave_some (ho : lending.Ordered)
    (h : lending.acquireOrLeave = (some slot, after)) :
    lending.waiting = [] ∧
      ∃ rest, lending.free = slot :: rest ∧ after = ⟨rest, [], lending.nextTicket + 1⟩ := by
  apply ho.acquire_inl
  unfold acquireOrLeave at h
  unfold acquire
  dsimp only [enqueue] at h ⊢
  split at h
  · cases h
    rfl
  · cases h

/-- A late caller that gets no region leaves the others as they were. -/
theorem Ordered.acquireOrLeave_none (ho : lending.Ordered)
    (h : lending.acquireOrLeave = (none, after)) :
    after = ⟨lending.free, lending.waiting, lending.nextTicket + 1⟩ := by
  have hkeep : lending.waiting.filter (· ≠ lending.nextTicket) = lending.waiting := by
    apply List.filter_eq_self.mpr
    intro ticket hticket
    exact decide_eq_true (Nat.ne_of_lt (ho.drawn ticket hticket))
  unfold acquireOrLeave at h
  dsimp only [enqueue] at h
  split at h
  · cases h
  · cases h
    unfold abandon
    dsimp only
    rw [List.filter_append, hkeep]
    simp

end Lending

/-- What becomes of a ticket. -/
inductive Fate where
  /-- Its caller got that region. -/
  | granted (ticket : Ticket) (slot : Nat)
  /-- Its caller gave up. -/
  | gaveUp (ticket : Ticket)
  deriving DecidableEq, Repr

namespace Fate

/-- The ticket that is settled. -/
def ticket : Fate → Ticket
  | granted ticket _ => ticket
  | gaveUp ticket => ticket

end Fate

namespace Desk

/-- What becomes of the ticket of a caller that claims, given what it does without success. -/
def fateOf (ticket : Ticket) (otherwise : Option Fate) : Option (Nat × Lending) → Option Fate
  | some (slot, _) => some (.granted ticket slot)
  | none => otherwise

/-- The ticket that a critical section settles, if any. -/
def fate? (desk : Desk) : Section → Option Fate
  | .arrive _ =>
    match desk.lending.acquire with
    | (.inl slot, _) => some (.granted desk.lending.nextTicket slot)
    | (.inr _, _) => none
  | .arriveLate =>
    match desk.lending.acquireOrLeave with
    | (some slot, _) => some (.granted desk.lending.nextTicket slot)
    | (none, _) => some (.gaveUp desk.lending.nextTicket)
  | .retry ticket =>
    if desk.waiters.any fun w => w.ticket = ticket ∧ w.awake then
      fateOf ticket none (desk.lending.claim? ticket)
    else none
  | .expire ticket =>
    if desk.waiters.any fun w => w.ticket = ticket ∧ w.timed then
      fateOf ticket (some (.gaveUp ticket)) (desk.lending.claim? ticket)
    else none
  | .rouse _ => none
  | .tryAcquire => none
  | .giveBack _ => none

/-- The tickets that a list of critical sections settles, in order. -/
def fates (desk : Desk) : List Section → List Fate
  | [] => []
  | critical :: rest => (desk.fate? critical).toList ++ fates (desk.step critical) rest

/-- The tickets of the callers inside a blocking call. -/
def tickets (desk : Desk) : List Ticket := desk.waiters.map Waiter.ticket

@[simp] theorem lending_notify (desk : Desk) : desk.notify.lending = desk.lending := by
  unfold notify
  split <;> rfl

@[simp] theorem leased_notify (desk : Desk) : desk.notify.leased = desk.leased := by
  unfold notify
  split <;> rfl

@[simp] theorem tickets_notify (desk : Desk) : desk.notify.tickets = desk.tickets := by
  unfold notify tickets
  split
  · rw [List.map_map]
    rfl
  · rfl

@[simp] theorem tickets_lend (desk : Desk) (slot : Nat) (after : Lending) :
    (desk.lend slot after).tickets = desk.tickets := rfl

/-- Who leaves takes its own ticket along. -/
@[simp] theorem tickets_leave (desk : Desk) (ticket : Ticket) :
    (desk.leave ticket).tickets = desk.tickets.filter (· ≠ ticket) := by
  unfold leave tickets
  rw [List.filter_map]
  rfl

@[simp] theorem tickets_setAwake (desk : Desk) (ticket : Ticket) (awake : Bool) :
    (desk.setAwake ticket awake).tickets = desk.tickets := by
  unfold setAwake tickets
  rw [List.map_map]
  apply List.map_congr_left
  intro w _
  dsimp only [Function.comp]
  split <;> rfl

/-- Those tickets were settled, and the others wait in order, each with its caller. -/
structure Queued (settled : List Ticket) (desk : Desk) : Prop where
  /-- The oldest ticket comes first. -/
  ascending : desk.lending.waiting.Pairwise (· < ·)
  /-- Each drawn ticket is settled or waits, once. -/
  accounted : (settled ++ desk.lending.waiting).Perm (List.range desk.lending.nextTicket)
  /-- Each waiting ticket has a caller. -/
  callers : desk.tickets = desk.lending.waiting

variable {desk : Desk} {settled : List Ticket} {ticket : Ticket} {slot : Nat}

theorem queued_opened (count : Nat) : Queued [] (opened count) :=
  ⟨List.Pairwise.nil, List.Perm.refl _, rfl⟩

namespace Queued

/-- The callers wait in the order of their tickets. -/
theorem ordered (h : Queued settled desk) : desk.lending.Ordered := by
  refine ⟨h.ascending, ?_⟩
  intro ticket hticket
  have hmem : ticket ∈ List.range desk.lending.nextTicket :=
    h.accounted.subset (List.mem_append_right _ hticket)
  exact List.mem_range.mp hmem

/-- No ticket waits twice. -/
theorem nodup (h : Queued settled desk) : desk.lending.waiting.Nodup :=
  h.ascending.imp fun hlt => Nat.ne_of_lt hlt

/-- A ticket that was drawn and does not wait was settled. -/
theorem mem_settled (h : Queued settled desk) (hdrawn : ticket < desk.lending.nextTicket)
    (hgone : ticket ∉ desk.lending.waiting) : ticket ∈ settled := by
  have hmem : ticket ∈ settled ++ desk.lending.waiting :=
    h.accounted.symm.subset (List.mem_range.mpr hdrawn)
  exact (List.mem_append.mp hmem).resolve_right hgone

/-- No earlier ticket waits than those that come first. -/
theorem settled_of_lt (h : Queued settled desk) (hdrawn : ticket ≤ desk.lending.nextTicket)
    (hfirst : ∀ other ∈ desk.lending.waiting, ticket ≤ other) {earlier : Ticket} (hlt : earlier < ticket) :
    earlier ∈ settled := by
  apply h.mem_settled (Nat.lt_of_lt_of_le hlt hdrawn)
  intro hmem
  exact Nat.not_le_of_lt hlt (hfirst earlier hmem)

end Queued

/-- A ticket that is settled: a new one at once, or one that waits. -/
inductive Settles (desk next : Desk) (ticket : Ticket) : Prop where
  /-- The ticket was drawn just now. -/
  | atOnce (hnew : ticket = desk.lending.nextTicket)
      (hwaiting : next.lending.waiting = desk.lending.waiting)
      (hnext : next.lending.nextTicket = desk.lending.nextTicket + 1)
      (htickets : next.tickets = desk.tickets)
  /-- The ticket and its caller leave the queue. -/
  | fromQueue (hmem : ticket ∈ desk.lending.waiting)
      (hwaiting : next.lending.waiting = desk.lending.waiting.filter (· ≠ ticket))
      (hnext : next.lending.nextTicket = desk.lending.nextTicket)
      (htickets : next.tickets = desk.tickets.filter (· ≠ ticket))

/-- No ticket is settled: the queue stays, or a new ticket waits last. -/
inductive Keeps (desk next : Desk) : Prop where
  /-- The queue is as it was. -/
  | same (hwaiting : next.lending.waiting = desk.lending.waiting)
      (hnext : next.lending.nextTicket = desk.lending.nextTicket)
      (htickets : next.tickets = desk.tickets)
  /-- A new ticket waits last. -/
  | joined (hwaiting : next.lending.waiting = desk.lending.waiting ++ [desk.lending.nextTicket])
      (hnext : next.lending.nextTicket = desk.lending.nextTicket + 1)
      (htickets : next.tickets = desk.tickets ++ [desk.lending.nextTicket])

namespace Queued

/-- A section that settles no ticket keeps the queue. -/
theorem keeps {next : Desk} (h : Queued settled desk) (hkeeps : Keeps desk next) : Queued settled next := by
  cases hkeeps with
  | same hwaiting hnext htickets =>
    refine ⟨?_, ?_, ?_⟩
    · rw [hwaiting]
      exact h.ascending
    · rw [hwaiting, hnext]
      exact h.accounted
    · rw [htickets, hwaiting]
      exact h.callers
  | joined hwaiting hnext htickets =>
    refine ⟨?_, ?_, ?_⟩
    · rw [hwaiting]
      refine List.pairwise_append.mpr ⟨h.ascending, List.pairwise_singleton _ _, ?_⟩
      intro ticket hticket new hnew
      rw [List.mem_singleton.mp hnew]
      exact h.ordered.drawn ticket hticket
    · rw [hwaiting, hnext, List.range_succ, ← List.append_assoc]
      exact h.accounted.append_right _
    · rw [htickets, hwaiting, h.callers]

/-- A section that settles a ticket keeps the queue of the others. -/
theorem settles {next : Desk} (h : Queued settled desk) (hsettles : Settles desk next ticket) :
    Queued (settled ++ [ticket]) next := by
  cases hsettles with
  | atOnce hnew hwaiting hnext htickets =>
    refine ⟨?_, ?_, ?_⟩
    · rw [hwaiting]
      exact h.ascending
    · have hswap : (settled ++ [ticket] ++ desk.lending.waiting).Perm
          (settled ++ desk.lending.waiting ++ [ticket]) := by
        rw [List.append_assoc, List.append_assoc]
        exact List.perm_append_comm.append_left settled
      have hall := h.accounted.append_right [ticket]
      rw [hwaiting, hnext, List.range_succ, ← hnew]
      rw [← hnew] at hall
      exact hswap.trans hall
    · rw [htickets, hwaiting]
      exact h.callers
  | fromQueue hmem hwaiting hnext htickets =>
    have herase : desk.lending.waiting.filter (· ≠ ticket) = desk.lending.waiting.erase ticket := by
      rw [h.nodup.erase_eq_filter]
      apply List.filter_congr
      intro other _
      by_cases heq : other = ticket <;> simp [heq]
    refine ⟨?_, ?_, ?_⟩
    · rw [hwaiting]
      exact h.ascending.filter _
    · have hperm : (ticket :: desk.lending.waiting.erase ticket).Perm desk.lending.waiting :=
        (List.perm_cons_erase hmem).symm
      rw [hwaiting, hnext, herase, List.append_assoc]
      exact (hperm.append_left settled).trans h.accounted
    · rw [htickets, hwaiting, h.callers]

end Queued

/-- All that one turn of a caller does to the queue, by the ticket that it settles. -/
inductive Turn (desk next : Desk) : Option Fate → Prop where
  /-- No ticket is settled, and no region is lent. -/
  | kept (hkeeps : Keeps desk next) (hleased : next.leased.Sublist desk.leased) : Turn desk next none
  /-- Nobody waits, and a caller that would not wait got a region. -/
  | took {slot : Nat} (hkeeps : Keeps desk next) (hempty : desk.lending.waiting = [])
      (hleased : next.leased = desk.leased ++ [slot]) : Turn desk next none
  /-- The oldest ticket got a region. -/
  | granted {ticket : Ticket} {slot : Nat} (hsettles : Settles desk next ticket)
      (hdrawn : ticket ≤ desk.lending.nextTicket) (hfirst : ∀ other ∈ desk.lending.waiting, ticket ≤ other)
      (hleased : next.leased = desk.leased ++ [slot]) : Turn desk next (some (.granted ticket slot))
  /-- A ticket was given up. -/
  | gaveUp {ticket : Ticket} (hsettles : Settles desk next ticket)
      (hfree : next.lending.free = desk.lending.free) (hleased : next.leased = desk.leased) :
      Turn desk next (some (.gaveUp ticket))

/-- A new ticket that finds nobody waiting is granted at once. -/
theorem turn_first {rest : List Nat} (hempty : desk.lending.waiting = []) :
    Turn desk (desk.lend slot ⟨rest, [], desk.lending.nextTicket + 1⟩).notify
      (some (.granted desk.lending.nextTicket slot)) := by
  refine .granted (.atOnce rfl ?_ ?_ ?_) (Nat.le_refl _) ?_ ?_
  · simp [lend, hempty]
  · simp [lend]
  · simp
  · rw [hempty]
    intro other hother
    cases hother
  · simp [lend]

/-- A new caller is granted a slot at once, or waits last. -/
theorem turn_arrive (ho : desk.lending.Ordered) (timed : Bool) :
    Turn desk (desk.arrive timed) (desk.fate? (.arrive timed)) := by
  unfold arrive
  dsimp only [fate?]
  match hacquire : desk.lending.acquire with
  | (.inl slot, after) =>
    obtain ⟨hempty, rest, -, rfl⟩ := ho.acquire_inl hacquire
    exact turn_first hempty
  | (.inr ticket, after) =>
    obtain ⟨rfl, rfl, -⟩ := Lending.acquire_inr hacquire
    refine .kept (.joined rfl rfl ?_) (List.Sublist.refl _)
    simp [tickets]

/-- A new caller at its deadline is granted a slot at once, or gives up. -/
theorem turn_arriveLate (ho : desk.lending.Ordered) :
    Turn desk desk.arriveLate (desk.fate? .arriveLate) := by
  unfold arriveLate
  dsimp only [fate?]
  match hacquire : desk.lending.acquireOrLeave with
  | (some slot, after) =>
    obtain ⟨hempty, rest, -, rfl⟩ := ho.acquireOrLeave_some hacquire
    exact turn_first hempty
  | (none, after) =>
    obtain rfl := ho.acquireOrLeave_none hacquire
    refine .gaveUp (.atOnce rfl ?_ ?_ ?_) ?_ ?_
    · simp
    · simp
    · rw [tickets_notify]
      rfl
    · simp
    · simp

/-- A waiting ticket that claims is the oldest one. -/
theorem turn_claim (ho : desk.lending.Ordered) {after : Lending}
    (hclaim : desk.lending.claim? ticket = some (slot, after)) :
    Turn desk ((desk.leave ticket).lend slot after).notify (some (.granted ticket slot)) := by
  obtain ⟨others, rest, hwaiting, -, rfl⟩ := Lending.claim?_eq_some.mp hclaim
  have hascending := ho.ascending
  rw [hwaiting, List.pairwise_cons] at hascending
  have hmem : ticket ∈ desk.lending.waiting := by
    rw [hwaiting]
    exact List.mem_cons_self ..
  have hothers : desk.lending.waiting.filter (· ≠ ticket) = others := by
    rw [hwaiting, List.filter_cons_of_neg (by simp)]
    apply List.filter_eq_self.mpr
    intro other hother
    exact decide_eq_true (Nat.ne_of_gt (hascending.1 other hother))
  refine .granted (.fromQueue hmem ?_ ?_ ?_) (Nat.le_of_lt (ho.drawn ticket hmem)) ?_ ?_
  · rw [hothers]
    simp [lend]
  · simp [lend]
  · simp
  · rw [hwaiting]
    intro other hother
    rcases List.mem_cons.mp hother with rfl | hother
    · exact Nat.le_refl _
    · exact Nat.le_of_lt (hascending.1 other hother)
  · simp [lend, leave]

/-- A caller that wakes up is granted a slot, or waits on. -/
theorem turn_retry (ho : desk.lending.Ordered) (ticket : Ticket) :
    Turn desk (desk.retry ticket) (desk.fate? (.retry ticket)) := by
  unfold retry
  dsimp only [fate?]
  split
  · match hclaim : desk.lending.claim? ticket with
    | some (slot, after) => exact turn_claim ho hclaim
    | none => exact .kept (.same rfl rfl (tickets_setAwake ..)) (List.Sublist.refl _)
  · exact .kept (.same rfl rfl rfl) (List.Sublist.refl _)

/-- A caller at its deadline is granted a slot, or gives up. -/
theorem turn_expire (h : Queued settled desk) (ticket : Ticket) :
    Turn desk (desk.expire ticket) (desk.fate? (.expire ticket)) := by
  unfold expire
  dsimp only [fate?]
  split
  · next hany =>
    match hclaim : desk.lending.claim? ticket with
    | some (slot, after) => exact turn_claim h.ordered hclaim
    | none =>
      have hmem : ticket ∈ desk.lending.waiting := by
        obtain ⟨w, hw, hticket⟩ := List.any_eq_true.mp hany
        obtain ⟨rfl, -⟩ := of_decide_eq_true hticket
        rw [← h.callers]
        exact List.mem_map_of_mem hw
      refine .gaveUp (.fromQueue hmem ?_ ?_ ?_) ?_ ?_
      · simp [Lending.abandon]
      · simp [Lending.abandon]
      · rw [tickets_notify]
        exact tickets_leave ..
      · simp [Lending.abandon]
      · simp [leave]
  · exact .kept (.same rfl rfl rfl) (List.Sublist.refl _)

theorem turn_tryAcquire (desk : Desk) : Turn desk desk.tryAcquire none := by
  unfold tryAcquire
  split
  · next htake =>
    obtain ⟨rest, hempty, -, rfl⟩ := Lending.tryTake?_eq_some.mp htake
    exact .took (.same rfl rfl rfl) hempty rfl
  · exact .kept (.same rfl rfl rfl) (List.Sublist.refl _)

theorem turn_giveBack (desk : Desk) (slot : Nat) : Turn desk (desk.giveBack slot) none := by
  unfold giveBack
  split
  · refine .kept (.same ?_ ?_ ?_) ?_
    · simp [Lending.giveBack]
    · simp [Lending.giveBack]
    · rw [tickets_notify]
      rfl
    · rw [leased_notify]
      exact List.erase_sublist
  · exact .kept (.same rfl rfl rfl) (List.Sublist.refl _)

/-- Every critical section is a turn of that kind. -/
theorem turn_step (h : Queued settled desk) (critical : Section) :
    Turn desk (desk.step critical) (desk.fate? critical) := by
  cases critical with
  | arrive timed => exact turn_arrive h.ordered timed
  | arriveLate => exact turn_arriveLate h.ordered
  | retry ticket => exact turn_retry h.ordered ticket
  | expire ticket => exact turn_expire h ticket
  | rouse ticket => exact .kept (.same rfl rfl (tickets_setAwake ..)) (List.Sublist.refl _)
  | tryAcquire => exact turn_tryAcquire desk
  | giveBack slot => exact turn_giveBack desk slot

namespace Queued

/-- A critical section settles the ticket that it says, and keeps the order of the others. -/
theorem step (h : Queued settled desk) (critical : Section) :
    Queued (settled ++ (desk.fate? critical).toList.map Fate.ticket) (desk.step critical) := by
  have hturn := turn_step h critical
  generalize desk.fate? critical = fate at hturn
  cases hturn with
  | kept hkeeps => simpa using h.keeps hkeeps
  | took hkeeps => simpa using h.keeps hkeeps
  | granted hsettles => exact h.settles hsettles
  | gaveUp hsettles => exact h.settles hsettles

/-- A run keeps the queue, with the tickets that it settled behind the others. -/
theorem run (h : Queued settled desk) (sections : List Section) :
    Queued (settled ++ (desk.fates sections).map Fate.ticket) (desk.run sections) := by
  induction sections generalizing settled desk with
  | nil => simpa [fates, Desk.run] using h
  | cons critical rest ih =>
    rw [fates, List.map_append, ← List.append_assoc]
    exact ih (h.step critical)

/-- A ticket is granted only after all earlier ones were settled. -/
theorem settled_before_granted (h : Queued settled desk) {critical : Section}
    (hfate : desk.fate? critical = some (.granted ticket slot)) :
    (desk.step critical).leased = desk.leased ++ [slot] ∧ ∀ earlier < ticket, earlier ∈ settled := by
  have hturn := turn_step h critical
  rw [hfate] at hturn
  cases hturn with
  | granted _ hdrawn hfirst hleased =>
    exact ⟨hleased, fun earlier hlt => h.settled_of_lt hdrawn hfirst hlt⟩

/-- A ticket that is given up leaves the other ones and the regions as they were. -/
theorem step_of_gaveUp (h : Queued settled desk) {critical : Section}
    (hfate : desk.fate? critical = some (.gaveUp ticket)) :
    (desk.step critical).lending.waiting = desk.lending.waiting.filter (· ≠ ticket) ∧
      (desk.step critical).lending.free = desk.lending.free ∧
      (desk.step critical).leased = desk.leased := by
  have hturn := turn_step h critical
  rw [hfate] at hturn
  cases hturn with
  | gaveUp hsettles hfree hleased =>
    refine ⟨?_, hfree, hleased⟩
    cases hsettles with
    | fromQueue _ hwaiting => exact hwaiting
    | atOnce hnew hwaiting =>
      rw [hwaiting, eq_comm]
      apply List.filter_eq_self.mpr
      intro other hother
      rw [hnew]
      exact decide_eq_true (Nat.ne_of_lt (h.ordered.drawn other hother))

/-- A region is lent to a ticket, or to a caller that finds nobody waiting. -/
theorem fate_of_lent (h : Queued settled desk) {critical : Section}
    (hlent : desk.leased.length < (desk.step critical).leased.length) :
    desk.lending.waiting = [] ∨ ∃ ticket slot, desk.fate? critical = some (.granted ticket slot) := by
  have hturn := turn_step h critical
  generalize desk.fate? critical = fate at hturn
  cases hturn with
  | kept _ hleased =>
    have hle := hleased.length_le
    omega
  | took _ hempty => exact Or.inl hempty
  | granted => exact Or.inr ⟨_, _, rfl⟩
  | gaveUp _ _ hleased =>
    rw [hleased] at hlent
    omega

end Queued

/-- What holds of a desk after tickets were settled in that way. -/
structure InOrder (fates : List Fate) (desk : Desk) : Prop where
  /-- The oldest waiting ticket comes first. -/
  ascending : desk.lending.waiting.Pairwise (· < ·)
  /-- Every waiting ticket was drawn. -/
  drawn : ∀ ticket ∈ desk.lending.waiting, ticket < desk.lending.nextTicket
  /-- Each drawn ticket waits, was granted a region or was given up, once. -/
  accounted : (fates.map Fate.ticket ++ desk.lending.waiting).Perm (List.range desk.lending.nextTicket)
  /-- A ticket that is granted gets a lease, and all earlier ones were granted or given up before. -/
  granted : ∀ critical ticket slot, desk.fate? critical = some (.granted ticket slot) →
    (desk.step critical).leased = desk.leased ++ [slot] ∧
      ∀ earlier < ticket, ∃ fate ∈ fates, fate.ticket = earlier
  /-- A ticket that is given up leaves the order of the others, the free regions and the leases. -/
  gaveUp : ∀ critical ticket, desk.fate? critical = some (.gaveUp ticket) →
    (desk.step critical).lending.waiting = desk.lending.waiting.filter (· ≠ ticket) ∧
      (desk.step critical).lending.free = desk.lending.free ∧ (desk.step critical).leased = desk.leased
  /-- While somebody waits, a caller that would not wait changes nothing. -/
  untaken : desk.lending.waiting ≠ [] → desk.step .tryAcquire = desk
  /-- While somebody waits, only a ticket that is granted gets a lease. -/
  lent : desk.lending.waiting ≠ [] → ∀ critical, desk.leased.length < (desk.step critical).leased.length →
    ∃ ticket slot, desk.fate? critical = some (.granted ticket slot)

/-- Callers are served in the order in which they drew their tickets, whatever the order of their critical
sections. -/
theorem served_in_order (count : Nat) (sections : List Section) :
    InOrder ((opened count).fates sections) ((opened count).run sections) := by
  have hqueued := (queued_opened count).run sections
  rw [List.nil_append] at hqueued
  refine ⟨hqueued.ascending, hqueued.ordered.drawn, hqueued.accounted, ?_, ?_, ?_, ?_⟩
  · intro critical ticket slot hfate
    obtain ⟨hleased, hearlier⟩ := hqueued.settled_before_granted hfate
    exact ⟨hleased, fun earlier hlt => List.mem_map.mp (hearlier earlier hlt)⟩
  · intro critical ticket hfate
    exact hqueued.step_of_gaveUp hfate
  · intro hsome
    change tryAcquire _ = _
    unfold tryAcquire
    split
    · next htake =>
      obtain ⟨_, hempty, -⟩ := Lending.tryTake?_eq_some.mp htake
      exact absurd hempty hsome
    · rfl
  · intro hsome critical hlent
    exact (hqueued.fate_of_lent hlent).resolve_left hsome

/-- One region: a caller takes it, three wait, and the second of them gives up. -/
def sampleSections : List Section :=
  [.arrive false, .arrive false, .arrive true, .tryAcquire, .expire 2, .arrive false, .giveBack 0]

/-- After those sections the oldest ticket is granted the region, and the one before it was settled. -/
theorem served_in_order_sampleSections :
    ((opened 1).run sampleSections).lending.waiting = [1, 3] ∧
      ((opened 1).run sampleSections).fate? (.retry 1) = some (.granted 1 0) ∧
      ∃ fate ∈ (opened 1).fates sampleSections, fate.ticket = 0 := by
  have hfate : ((opened 1).run sampleSections).fate? (.retry 1) = some (.granted 1 0) := by decide
  refine ⟨by decide, hfate, ?_⟩
  exact ((served_in_order 1 sampleSections).granted _ _ _ hfate).2 0 (by decide)

end Desk
end MemoryPlan
