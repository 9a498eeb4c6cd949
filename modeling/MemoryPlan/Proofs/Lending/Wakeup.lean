import Mathlib.Data.List.Nodup
import MemoryPlan.Proofs.Lending.Queue
/-!
# Wake-ups at desks

Only the oldest ticket may claim a region, so its caller must not sleep while a region is free. Whoever
changes the oldest ticket or frees a region wakes all callers in the same critical section; a caller goes to
sleep only when it is not the oldest or no region is free. Nobody that could be served is therefore left
asleep, whatever callers wake up without a reason or give up.
-/

namespace MemoryPlan

namespace Desk

variable {desk : Desk} {settled : List Ticket} {ticket : Ticket}

/-- While a region is free, the caller of the oldest ticket is awake. -/
def Roused (desk : Desk) : Prop :=
  desk.lending.free ≠ [] → ∀ w ∈ desk.waiters, desk.lending.waiting.head? = some w.ticket → w.awake = true

/-- Where nobody waits, nobody sleeps in vain. -/
theorem roused_of_waiting (hempty : desk.lending.waiting = []) : Roused desk := by
  intro _ w _ hhead
  rw [hempty] at hhead
  cases hhead

theorem roused_of_free (hempty : desk.lending.free = []) : Roused desk := fun hfree => absurd hempty hfree

/-- After all callers were woken where one of them could claim, the oldest one is awake. -/
theorem roused_notify (desk : Desk) : Roused desk.notify := by
  unfold notify
  split
  · intro _ w hw _
    obtain ⟨_, _, rfl⟩ := List.mem_map.mp hw
    rfl
  · next hquiet =>
    unfold Lending.wakes at hquiet
    rw [Bool.and_eq_true, not_and_or] at hquiet
    rcases hquiet with hnobody | hnothing
    · exact roused_of_waiting (by simpa using hnobody)
    · exact roused_of_free (by simpa using hnothing)

namespace Roused

/-- A new caller goes to sleep behind the others, or where no region is free. -/
theorem arrive (h : Roused desk) (hq : Queued settled desk) (timed : Bool) : Roused (desk.arrive timed) := by
  unfold Desk.arrive
  match hacquire : desk.lending.acquire with
  | (.inl slot, after) => exact roused_notify _
  | (.inr ticket, after) =>
    obtain ⟨rfl, rfl, hnone⟩ := Lending.acquire_inr hacquire
    intro hfree w hw hhead
    have hsome : desk.lending.waiting ≠ [] := fun hempty => hfree (hnone hempty)
    have hold : desk.lending.waiting.head? = some w.ticket := by
      rw [← List.head?_append_of_ne_nil _ hsome]
      exact hhead
    rcases List.mem_append.mp hw with hw | hw
    · exact h hfree w hw hold
    · -- the new ticket is not the oldest one, since it was not drawn before
      rw [List.mem_singleton.mp hw] at hold
      have hdrawn : desk.lending.nextTicket < desk.lending.nextTicket :=
        hq.ordered.drawn _ (List.mem_of_mem_head? hold)
      exact absurd hdrawn (Nat.lt_irrefl _)

/-- A new caller at its deadline wakes the others, whether it gets a region or gives up. -/
theorem arriveLate (desk : Desk) : Roused desk.arriveLate := by
  unfold Desk.arriveLate
  split <;> exact roused_notify _

/-- A caller goes back to sleep only if it is not the oldest or no region is free. -/
theorem retry (h : Roused desk) (ticket : Ticket) : Roused (desk.retry ticket) := by
  unfold Desk.retry
  split
  · match hclaim : desk.lending.claim? ticket with
    | some (slot, after) => exact roused_notify _
    | none =>
      intro hfree w hw hhead
      obtain ⟨old, hold, rfl⟩ := List.mem_map.mp hw
      by_cases hself : old.ticket = ticket
      · rw [if_pos hself] at hhead
        have hempty := Lending.claim?_eq_none.mp hclaim (hself ▸ hhead)
        exact absurd hempty hfree
      · rw [if_neg hself] at hhead ⊢
        exact h hfree old hold hhead
  · exact h

/-- A caller at its deadline wakes the others when it leaves. -/
theorem expire (h : Roused desk) (ticket : Ticket) : Roused (desk.expire ticket) := by
  unfold Desk.expire
  split
  · split <;> exact roused_notify _
  · exact h

theorem rouse (h : Roused desk) (ticket : Ticket) : Roused (desk.setAwake ticket true) := by
  intro hfree w hw hhead
  obtain ⟨old, hold, rfl⟩ := List.mem_map.mp hw
  split at hhead
  · next hself => rw [if_pos hself]
  · next hself =>
    rw [if_neg hself]
    exact h hfree old hold hhead

/-- A caller that would not wait takes a slot only where nobody waits. -/
theorem tryAcquire (h : Roused desk) : Roused desk.tryAcquire := by
  unfold Desk.tryAcquire
  split
  · next htake =>
    obtain ⟨_, hempty, -, rfl⟩ := Lending.tryTake?_eq_some.mp htake
    exact roused_of_waiting hempty
  · exact h

/-- A lease that goes back wakes the callers that wait. -/
theorem giveBack (h : Roused desk) (slot : Nat) : Roused (desk.giveBack slot) := by
  unfold Desk.giveBack
  split
  · exact roused_notify _
  · exact h

/-- No critical section leaves the oldest caller asleep while a region is free. -/
theorem step (h : Roused desk) (hq : Queued settled desk) (critical : Section) :
    Roused (desk.step critical) := by
  cases critical with
  | arrive timed => exact h.arrive hq timed
  | arriveLate => exact arriveLate desk
  | retry ticket => exact h.retry ticket
  | expire ticket => exact h.expire ticket
  | rouse ticket => exact h.rouse ticket
  | tryAcquire => exact h.tryAcquire
  | giveBack slot => exact h.giveBack slot

/-- In every run the oldest caller is awake where a slot is free. -/
theorem run (h : Roused desk) (hq : Queued settled desk) (sections : List Section) :
    Roused (desk.run sections) := by
  induction sections generalizing settled desk with
  | nil => exact h
  | cons critical rest ih => exact ih (h.step hq critical) (hq.step critical)

end Roused

/-- Each waiting ticket belongs to one caller. -/
theorem Queued.caller (h : Queued settled desk) (hwaiting : ticket ∈ desk.lending.waiting) :
    ∃ w, desk.waiters.filter (fun w => w.ticket = ticket) = [w] ∧ w ∈ desk.waiters ∧ w.ticket = ticket := by
  have hcount : (desk.waiters.filter fun w => w.ticket = ticket).length = 1 := by
    rw [← List.countP_eq_length_filter]
    change desk.waiters.countP ((fun other => decide (other = ticket)) ∘ Waiter.ticket) = 1
    rw [← List.countP_map]
    change desk.tickets.countP _ = 1
    rw [h.callers]
    exact List.count_eq_one_of_mem h.nodup hwaiting
  obtain ⟨w, hw⟩ := List.length_eq_one_iff.mp hcount
  have hmem : w ∈ desk.waiters.filter fun w => w.ticket = ticket := by
    rw [hw]
    exact List.mem_singleton_self w
  obtain ⟨hmem, hticket⟩ := List.mem_filter.mp hmem
  exact ⟨w, hw, hmem, of_decide_eq_true hticket⟩

/-- The turn of an awake caller with the oldest ticket gets the first free region. -/
theorem leased_retry {w : Waiter} {others : List Ticket} {slot : Nat} {rest : List Nat}
    (hw : w ∈ desk.waiters) (hawake : w.awake = true) (hwaiting : desk.lending.waiting = w.ticket :: others)
    (hfree : desk.lending.free = slot :: rest) :
    (desk.retry w.ticket).leased = desk.leased ++ [slot] := by
  have hany : (desk.waiters.any fun other => other.ticket = w.ticket ∧ other.awake) = true :=
    List.any_eq_true.mpr ⟨w, hw, decide_eq_true ⟨rfl, hawake⟩⟩
  have hclaim := Lending.claim?_eq_some.mpr ⟨others, rest, hwaiting, hfree, rfl⟩
  unfold retry
  rw [if_pos hany, hclaim]
  simp [lend, leave]

/-- While callers wait and a region is free, the caller of the oldest ticket is awake, whatever the order of
the critical sections was, and its next turn gets the first free region. -/
theorem oldest_caller_awake (count : Nat) (sections : List Section) (ticket : Ticket) (others : List Ticket)
    (slot : Nat) (rest : List Nat)
    (hwaiting : ((opened count).run sections).lending.waiting = ticket :: others)
    (hfree : ((opened count).run sections).lending.free = slot :: rest) :
    (∃ w, ((opened count).run sections).waiters.filter (fun w => w.ticket = ticket) = [w] ∧ w.awake = true) ∧
      (((opened count).run sections).step (.retry ticket)).leased =
        ((opened count).run sections).leased ++ [slot] := by
  have hqueued := (queued_opened count).run sections
  have hroused : Roused ((opened count).run sections) :=
    (roused_of_waiting rfl).run (queued_opened count) sections
  obtain ⟨w, honly, hw, rfl⟩ := hqueued.caller (by rw [hwaiting]; exact List.mem_cons_self ..)
  have hawake : w.awake = true := by
    apply hroused _ w hw
    · rw [hwaiting]
      rfl
    · rw [hfree]
      exact List.cons_ne_nil _ _
  exact ⟨⟨w, honly, hawake⟩, leased_retry hw hawake hwaiting hfree⟩

/-- One region and two callers that wait: the region comes back, and the wake-up reaches the younger caller
first, which goes back to sleep. -/
def wakeupSections : List Section :=
  [.arrive false, .arrive true, .arrive false, .rouse 1, .retry 1, .giveBack 0, .retry 2]

/-- The younger caller sleeps again, and the older one is still awake. -/
theorem oldest_caller_awake_wakeupSections :
    ((opened 1).run wakeupSections).waiters = [⟨1, true, true⟩, ⟨2, false, false⟩] ∧
      (∃ w, ((opened 1).run wakeupSections).waiters.filter (fun w => w.ticket = 1) = [w] ∧ w.awake = true) ∧
      (((opened 1).run wakeupSections).step (.retry 1)).leased =
        ((opened 1).run wakeupSections).leased ++ [0] :=
  ⟨by decide, oldest_caller_awake 1 wakeupSections 1 [2] 0 [] (by decide) (by decide)⟩

end Desk
end MemoryPlan
