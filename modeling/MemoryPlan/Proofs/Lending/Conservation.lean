import Mathlib.Data.List.Nodup
import MemoryPlan.Proofs.Lending.Desk
/-!
# Conservation of slots

Every move at a desk only permutes the slots that are free or leased: a claim carries the first free slot
over to the leases, a return carries it back, and whoever gives up takes nothing along. In every reachable
hall the free and the leased slots of a pool are therefore its numbers, each exactly once. A lease that goes
back is held no longer, and its slot becomes the last of the free ones (`Session.GivesBack`).
-/

namespace MemoryPlan

namespace Lending

variable {lending after : Lending} {slot : Nat} {ticket : Ticket}

/-- A claim takes the first free slot. -/
theorem free_claim? (h : lending.claim? ticket = some (slot, after)) :
    lending.free = slot :: after.free := by
  obtain ⟨others, rest, -, hfree, rfl⟩ := claim?_eq_some.mp h
  exact hfree

/-- A caller that would not wait takes the first free slot. -/
theorem free_tryTake? (h : lending.tryTake? = some (slot, after)) : lending.free = slot :: after.free := by
  obtain ⟨rest, -, hfree, rfl⟩ := tryTake?_eq_some.mp h
  exact hfree

/-- A new caller that need not wait takes the first free slot. -/
theorem free_acquire_inl (h : lending.acquire = (.inl slot, after)) :
    lending.free = slot :: after.free := by
  unfold acquire at h
  dsimp only [enqueue] at h
  split at h
  · next hclaim =>
    cases h
    have hfree := free_claim? hclaim
    exact hfree
  · cases h

/-- A new caller that waits takes no slot. -/
theorem free_acquire_inr (h : lending.acquire = (.inr ticket, after)) : after.free = lending.free := by
  unfold acquire at h
  dsimp only [enqueue] at h
  split at h
  · cases h
  · cases h
    rfl

/-- A new caller that is lucky at its deadline takes the first free slot. -/
theorem free_acquireOrLeave_some (h : lending.acquireOrLeave = (some slot, after)) :
    lending.free = slot :: after.free := by
  unfold acquireOrLeave at h
  dsimp only [enqueue] at h
  split at h
  · next hclaim =>
    cases h
    have hfree := free_claim? hclaim
    exact hfree
  · cases h

/-- A new caller that gives up takes no slot. -/
theorem free_acquireOrLeave_none (h : lending.acquireOrLeave = (none, after)) :
    after.free = lending.free := by
  unfold acquireOrLeave at h
  dsimp only [enqueue] at h
  split at h
  · cases h
  · cases h
    rfl

end Lending

namespace Desk

/-- The free and the leased slots. -/
def slots (desk : Desk) : List Nat := desk.lending.free ++ desk.leased

variable {desk : Desk} {slot : Nat} {after : Lending}

@[simp] theorem slots_notify (desk : Desk) : desk.notify.slots = desk.slots := by
  unfold notify
  split <;> rfl

/-- A claim carries the first free slot over to the leases. -/
theorem slots_lend (desk : Desk) (h : desk.lending.free = slot :: after.free) :
    (desk.lend slot after).slots.Perm desk.slots := by
  have hmove : (after.free ++ (desk.leased ++ [slot])).Perm (slot :: (after.free ++ desk.leased)) := by
    rw [← List.append_assoc]
    exact List.perm_append_singleton slot _
  unfold slots
  rw [h]
  exact hmove

theorem slots_arrive (desk : Desk) (timed : Bool) : (desk.arrive timed).slots.Perm desk.slots := by
  unfold arrive
  split
  · next h =>
    rw [slots_notify]
    exact slots_lend desk (Lending.free_acquire_inl h)
  · next h =>
    unfold slots
    rw [Lending.free_acquire_inr h]

theorem slots_arriveLate (desk : Desk) : desk.arriveLate.slots.Perm desk.slots := by
  unfold arriveLate
  split
  · next h =>
    rw [slots_notify]
    exact slots_lend desk (Lending.free_acquireOrLeave_some h)
  · next h =>
    rw [slots_notify]
    unfold slots
    rw [Lending.free_acquireOrLeave_none h]

theorem slots_retry (desk : Desk) (ticket : Ticket) : (desk.retry ticket).slots.Perm desk.slots := by
  unfold retry
  split
  · split
    · next h =>
      rw [slots_notify]
      exact slots_lend (desk.leave ticket) (Lending.free_claim? h)
    · exact List.Perm.refl _
  · exact List.Perm.refl _

theorem slots_expire (desk : Desk) (ticket : Ticket) : (desk.expire ticket).slots.Perm desk.slots := by
  unfold expire
  split
  · split
    · next h =>
      rw [slots_notify]
      exact slots_lend (desk.leave ticket) (Lending.free_claim? h)
    · rw [slots_notify]
      exact List.Perm.refl _
  · exact List.Perm.refl _

theorem slots_tryAcquire (desk : Desk) : desk.tryAcquire.slots.Perm desk.slots := by
  unfold tryAcquire
  split
  · next h => exact slots_lend desk (Lending.free_tryTake? h)
  · exact List.Perm.refl _

/-- A return carries the slot of a held lease back to the free ones. -/
theorem slots_giveBack (desk : Desk) (slot : Nat) : (desk.giveBack slot).slots.Perm desk.slots := by
  unfold giveBack
  split
  · next hheld =>
    rw [slots_notify]
    have herase : desk.leased.Perm (slot :: desk.leased.erase slot) := List.perm_cons_erase hheld
    change (desk.lending.free ++ [slot] ++ desk.leased.erase slot).Perm (desk.lending.free ++ desk.leased)
    rw [List.append_assoc]
    exact herase.symm.append_left desk.lending.free
  · exact List.Perm.refl _

/-- A held lease that goes back is struck off the leases, and its slot is the last of the free ones. -/
theorem giveBack_of_leased (hheld : slot ∈ desk.leased) :
    (desk.giveBack slot).leased = desk.leased.erase slot ∧
      (desk.giveBack slot).lending.free = desk.lending.free ++ [slot] := by
  unfold giveBack
  rw [if_pos hheld]
  unfold notify
  split <;> exact ⟨rfl, rfl⟩

/-- No critical section loses a slot or makes a second one of it. -/
theorem slots_step (desk : Desk) (critical : Section) : (desk.step critical).slots.Perm desk.slots := by
  cases critical with
  | arrive timed => exact slots_arrive desk timed
  | arriveLate => exact slots_arriveLate desk
  | retry ticket => exact slots_retry desk ticket
  | expire ticket => exact slots_expire desk ticket
  | rouse ticket => exact List.Perm.refl _
  | tryAcquire => exact slots_tryAcquire desk
  | giveBack slot => exact slots_giveBack desk slot

end Desk

namespace Hall

/-- Every desk accounts for the slots of its pool. -/
def Conserves (counts : List Nat) (hall : Hall) : Prop :=
  List.Forall₂ (fun desk count => desk.slots.Perm (List.range count)) hall.desks counts

variable {counts : List Nat} {hall : Hall}

/-- At the beginning all slots are free. -/
theorem conserves_opened (counts : List Nat) : Conserves counts (opened counts) := by
  unfold Conserves opened
  induction counts with
  | nil => exact List.Forall₂.nil
  | cons count rest ih =>
    refine List.Forall₂.cons ?_ ih
    change (List.range count ++ []).Perm (List.range count)
    rw [List.append_nil]

/-- Changing one desk by a permutation of its slots keeps the account. -/
theorem Conserves.modify (h : Conserves counts hall) (change : Desk → Desk)
    (hchange : ∀ desk, (change desk).slots.Perm desk.slots) (pool : Nat) (reports : List Event) :
    Conserves counts { desks := hall.desks.modify pool change, reports } := by
  obtain ⟨desks, _⟩ := hall
  unfold Conserves at h ⊢
  dsimp only at h ⊢
  induction h generalizing pool with
  | nil => simp
  | cons hdesk hrest ih =>
    cases pool with
    | zero => exact List.Forall₂.cons ((hchange _).trans hdesk) hrest
    | succ pool => exact List.Forall₂.cons hdesk (ih pool)

/-- A move keeps the account of every desk. -/
theorem Conserves.step (h : Conserves counts hall) (move : Move) : Conserves counts (hall.step move) := by
  cases move with
  | work pool critical => exact h.modify _ (fun desk => desk.slots_step critical) pool hall.reports
  | release lease through =>
    exact h.modify _ (fun desk => desk.slots_giveBack lease.slot) lease.item _

/-- A schedule keeps the account of every desk. -/
theorem Conserves.run (h : Conserves counts hall) (moves : List Move) :
    Conserves counts (hall.run moves) := by
  induction moves generalizing hall with
  | nil => exact h
  | cons move rest ih => exact ih (h.step move)

/-- A lease that is handed to another pool changes its own pool only. -/
theorem desks_release_of_ne {lease : Lease} {pool : Nat} (hne : pool ≠ lease.item) (hall : Hall)
    (through : Nat) : (hall.release lease through).desks[pool]? = hall.desks[pool]? := by
  change (hall.desks.modify lease.item _)[pool]? = _
  rw [List.getElem?_modify]
  simp [Ne.symm hne]

/-- A lease that is handed to a pool goes back to its own. -/
theorem desks_release_self {lease : Lease} {hall : Hall} {desk : Desk} (hdesk : hall.desks[lease.item]? = some desk)
    (through : Nat) : (hall.release lease through).desks[lease.item]? = some (desk.giveBack lease.slot) := by
  change (hall.desks.modify lease.item _)[lease.item]? = _
  rw [List.getElem?_modify_eq, hdesk]
  rfl

/-- A desk of a hall accounts for the slots of the pool of its number. -/
theorem Conserves.desk (h : Conserves counts hall) {pool count : Nat} {desk : Desk}
    (hcount : counts[pool]? = some count) (hdesk : hall.desks[pool]? = some desk) :
    desk.slots.Perm (List.range count) := by
  obtain ⟨hc, rfl⟩ := List.getElem?_eq_some_iff.mp hcount
  obtain ⟨hd, rfl⟩ := List.getElem?_eq_some_iff.mp hdesk
  exact List.Forall₂.get h hd hc

end Hall

namespace Desk

variable {desk : Desk} {count : Nat}

/-- A desk that accounts for its slots has lent none of them twice, and none that is free. -/
theorem exclusive (h : desk.slots.Perm (List.range count)) :
    desk.lending.free.Nodup ∧ desk.leased.Nodup ∧ ∀ slot ∈ desk.leased, slot ∉ desk.lending.free := by
  have hnodup : desk.slots.Nodup := h.nodup_iff.mpr List.nodup_range
  obtain ⟨hfree, hleased, hdisjoint⟩ := List.nodup_append'.mp hnodup
  refine ⟨hfree, hleased, ?_⟩
  intro slot hslot hmem
  exact hdisjoint hmem hslot

/-- The free slots and the leased ones are as many as the pool has. -/
theorem available_add_leased (h : desk.slots.Perm (List.range count)) :
    desk.lending.available + desk.leased.length = count := by
  have hlength : desk.slots.length = (List.range count).length := h.length_eq
  rw [slots, List.length_append, List.length_range] at hlength
  exact hlength

end Desk

namespace Session

variable {δ : Type} {on pool : Nat}

/-- Changing the queue of one item leaves all others. -/
theorem item?_setLending_of_ne (hne : on ≠ pool) (session : Session δ) (lending : Lending) :
    (session.setLending pool lending).item? on = session.item? on := by
  unfold item? setLending
  dsimp only
  rw [List.getElem?_modify]
  simp [Ne.symm hne]

/-- Handing over a region of one item leaves all others. -/
theorem item?_handOver_of_ne (hne : on ≠ pool) (session : Session δ) (lending : Lending) :
    (session.handOver pool lending).2.item? on = session.item? on := by
  unfold handOver
  split
  · rfl
  · split
    · exact item?_setLending_of_ne hne _ _
    · rfl

/-- Dropping a lease on one item leaves all others. -/
theorem item?_drop_of_ne {lease : Lease} (hne : on ≠ lease.item) (session : Session δ) (name : String) :
    (session.drop name lease).2.item? on = session.item? on := by
  unfold drop
  dsimp only
  split
  · rfl
  · rw [item?_handOver_of_ne hne]
    exact item?_setLending_of_ne hne _ _

/-- A lease that goes back, through whichever pool, changes no pool but its own. -/
theorem item?_release_of_ne {session : Session δ} {name : String} {lease : Lease}
    (hheld : session.leases.lookup name = some lease) (hne : on ≠ lease.item) (through : Option Nat) :
    (session.release name through).2.item? on = session.item? on := by
  unfold release withLease
  rw [hheld]
  dsimp only
  split
  · rfl
  · split
    · exact item?_drop_of_ne hne session name
    · unfold withItem
      split
      · rfl
      · rw [item?_drop_of_ne hne]
        split <;> rfl

/-- Changing the queue of an item changes nothing else of it. -/
theorem item?_setLending_self (session : Session δ) (on : Nat) (lending : Lending) :
    (session.setLending on lending).item? on = (session.item? on).map (Item.withLending lending) := by
  unfold item? setLending
  dsimp only
  rw [List.getElem?_modify_eq]
  cases session.items[on]? with
  | none => rfl
  | some place => rfl

@[simp] theorem lending_withLending (lending : Lending) (item : Item) :
    (item.withLending lending).regions.lending = lending := by
  cases item <;> rfl

/-- What becomes of a lease on an item when it goes back, with the callers that got a region then. -/
structure GivesBack (session : Session δ) (name : String) (lease : Lease) (item : Item)
    (granted : List (String × Nat)) (after : Session δ) : Prop where
  /-- The lease is held no longer, and the callers that got a region hold it. -/
  leases : after.leases = (session.leases.filter fun (other, _) => other ≠ name) ++
    granted.map fun (caller, slot) => (caller, ⟨lease.item, slot⟩)
  /-- The slot became the last of the free ones, of which those callers got the first. -/
  free : ∃ returned, after.item? lease.item = some returned ∧
    granted.map Prod.snd ++ returned.regions.lending.free = item.regions.lending.free ++ [lease.slot]
  /-- If nobody waited, nobody got a region. -/
  idle : item.regions.lending.waiting = [] → granted = []

/-- Handing over lends the first free region of an item to the oldest waiting caller, or nothing. -/
theorem handOver_grants {session : Session δ} {item : Item} (hitem : session.item? on = some item) :
    (session.handOver on item.regions.lending).2.leases = session.leases ++
        (session.handOver on item.regions.lending).1.map (fun (caller, slot) => (caller, ⟨on, slot⟩)) ∧
      (∃ returned, (session.handOver on item.regions.lending).2.item? on = some returned ∧
        (session.handOver on item.regions.lending).1.map Prod.snd ++ returned.regions.lending.free =
          item.regions.lending.free) ∧
      (item.regions.lending.waiting = [] → (session.handOver on item.regions.lending).1 = []) := by
  unfold handOver
  split
  · exact ⟨by simp, ⟨item, hitem, rfl⟩, fun _ => rfl⟩
  · next ticket others hwaiting =>
    have hnever : item.regions.lending.waiting ≠ [] := by simp [hwaiting]
    split
    · next slot lending caller hclaim hfind =>
      refine ⟨rfl, ⟨item.withLending lending, ?_, ?_⟩, fun hidle => absurd hidle hnever⟩
      · change (session.setLending on lending).item? on = _
        rw [item?_setLending_self, hitem, Option.map_some]
      · rw [lending_withLending, Lending.free_claim? hclaim]
        rfl
    · exact ⟨by simp, ⟨item, hitem, rfl⟩, fun _ => rfl⟩

/-- A lease that is dropped goes back to its item. -/
theorem drop_givesBack {session : Session δ} {lease : Lease} {item : Item}
    (hitem : session.item? lease.item = some item) (name : String) :
    session.GivesBack name lease item (session.drop name lease).1 (session.drop name lease).2 := by
  let freed : Session δ := { session with leases := session.leases.filter fun (other, _) => other ≠ name }
  let lending := item.regions.lending.giveBack lease.slot
  have hfreed : freed.item? lease.item = some item := hitem
  have hreturned : ((freed.setLending lease.item lending).note
      (Lending.releasedEvent lease.slot lending.available)).item? lease.item = some (item.withLending lending) := by
    change (freed.setLending lease.item lending).item? lease.item = _
    rw [item?_setLending_self, hfreed, Option.map_some]
  have hgrants := handOver_grants hreturned
  rw [lending_withLending] at hgrants
  have hdrop : session.drop name lease = ((freed.setLending lease.item lending).note
      (Lending.releasedEvent lease.slot lending.available)).handOver lease.item lending := by
    unfold drop
    dsimp only
    rw [hfreed]
  rw [hdrop]
  exact ⟨hgrants.1, hgrants.2.1, hgrants.2.2⟩

/-- A held lease that goes back, by itself or through any item, goes back to its own. -/
theorem release_givesBack {session : Session δ} {name : String} {lease : Lease} {item : Item}
    (hheld : session.leases.lookup name = some lease) (hitem : session.item? lease.item = some item)
    (through : Option Nat) (hthrough : ∀ other, through = some other → ∃ passed, session.item? other = some passed) :
    ∃ granted after, session.release name through = (.granted granted, after) ∧
      session.GivesBack name lease item granted after := by
  unfold release withLease
  rw [hheld]
  dsimp only
  rw [hitem]
  cases through with
  | none => exact ⟨_, _, rfl, drop_givesBack hitem name⟩
  | some other =>
    obtain ⟨passed, hpassed⟩ := hthrough other rfl
    dsimp only
    unfold withItem
    rw [hpassed]
    dsimp only
    split
    · exact ⟨_, _, rfl, drop_givesBack hitem name⟩
    · -- the report of the wrong pool changes neither the leases nor the items
      have hnoted : (session.note (Lending.foreignEvent lease.slot)).item? lease.item = some item := hitem
      obtain ⟨hleases, hfree, hidle⟩ := drop_givesBack hnoted name
      exact ⟨_, _, rfl, hleases, hfree, hidle⟩

end Session

namespace Hall

/-- In every reachable hall the free slots of a pool and the slots of its held leases are its numbers, each
exactly once: no slot has two holders, none is lost, and the slot of a held lease is not free when it comes
back. A lease that is handed to another pool changes its own pool only. There it is held no longer, and its slot
becomes the last of the free ones. -/
theorem lending_exclusive (counts : List Nat) (moves : List Move) :
    ((opened counts).run moves).desks.length = counts.length ∧
    (∀ (pool count : Nat) (desk : Desk), counts[pool]? = some count →
      ((opened counts).run moves).desks[pool]? = some desk →
        (desk.lending.free ++ desk.leased).Perm (List.range count) ∧
        desk.lending.free.Nodup ∧ desk.leased.Nodup ∧
        (∀ slot ∈ desk.leased, slot ∉ desk.lending.free) ∧
        desk.lending.available + desk.leased.length = count) ∧
    (∀ (lease : Lease) (through pool : Nat), pool ≠ lease.item →
      (((opened counts).run moves).release lease through).desks[pool]? =
        ((opened counts).run moves).desks[pool]?) ∧
    (∀ (δ : Type) (session : Session δ) (name : String) (lease : Lease) (through : Option Nat) (on : Nat),
      session.leases.lookup name = some lease → on ≠ lease.item →
        (session.release name through).2.item? on = session.item? on) ∧
    (∀ (lease : Lease) (through : Nat) (desk : Desk),
      ((opened counts).run moves).desks[lease.item]? = some desk → lease.slot ∈ desk.leased →
        ∃ after, (((opened counts).run moves).release lease through).desks[lease.item]? = some after ∧
          after.leased = desk.leased.erase lease.slot ∧ lease.slot ∉ after.leased ∧
          after.lending.free = desk.lending.free ++ [lease.slot]) ∧
    (∀ (δ : Type) (session : Session δ) (name : String) (lease : Lease) (item : Item) (through : Option Nat),
      session.leases.lookup name = some lease → session.item? lease.item = some item →
        (∀ other, through = some other → ∃ passed, session.item? other = some passed) →
        ∃ granted after, session.release name through = (.granted granted, after) ∧
          session.GivesBack name lease item granted after) := by
  have hrun : Conserves counts ((opened counts).run moves) := (conserves_opened counts).run moves
  have hcounts : ∀ {pool : Nat} {desk : Desk}, ((opened counts).run moves).desks[pool]? = some desk →
      ∃ count, counts[pool]? = some count := by
    intro pool desk hdesk
    obtain ⟨hpool, -⟩ := List.getElem?_eq_some_iff.mp hdesk
    rw [hrun.length_eq] at hpool
    exact ⟨_, List.getElem?_eq_getElem hpool⟩
  refine ⟨hrun.length_eq, ?_, ?_, ?_, ?_, ?_⟩
  · intro pool count desk hcount hdesk
    have hslots : desk.slots.Perm (List.range count) := hrun.desk hcount hdesk
    obtain ⟨hfree, hleased, hdisjoint⟩ := Desk.exclusive hslots
    exact ⟨hslots, hfree, hleased, hdisjoint, Desk.available_add_leased hslots⟩
  · intro lease through pool hne
    exact desks_release_of_ne hne _ through
  · intro δ session name lease through on hheld hne
    exact Session.item?_release_of_ne hheld hne through
  · intro lease through desk hdesk hheld
    obtain ⟨count, hcount⟩ := hcounts hdesk
    obtain ⟨-, hleased, -⟩ := Desk.exclusive (hrun.desk hcount hdesk)
    obtain ⟨hstruck, hfree⟩ := Desk.giveBack_of_leased hheld
    refine ⟨_, desks_release_self hdesk through, hstruck, ?_, hfree⟩
    rw [hstruck]
    exact hleased.not_mem_erase
  · intro δ session name lease item through hheld hitem hthrough
    exact Session.release_givesBack hheld hitem through hthrough

/-- Two pools of two and one regions: a caller that waits, one that gives up, one that wakes up in vain, and a
lease of the first pool that goes back through the second. -/
def sampleMoves : List Move :=
  [.work 0 (.arrive false), .work 0 .tryAcquire, .work 0 (.arrive false), .work 0 .arriveLate,
    .work 1 (.arrive true), .work 0 (.rouse 1), .work 0 (.retry 1), .release ⟨0, 1⟩ 1, .work 0 (.retry 1)]

/-- After those moves the first pool is lent out again, although a slot of it came back. -/
theorem lending_exclusive_sampleMoves :
    ∃ desk, ((opened [2, 1]).run sampleMoves).desks[0]? = some desk ∧ desk.leased = [0, 1] ∧
      (desk.lending.free ++ desk.leased).Perm (List.range 2) ∧
      desk.lending.available + desk.leased.length = 2 := by
  obtain ⟨desk, hdesk, hleased⟩ :
      ∃ desk, ((opened [2, 1]).run sampleMoves).desks[0]? = some desk ∧ desk.leased = [0, 1] :=
    ⟨_, rfl, by decide⟩
  obtain ⟨hperm, -, -, -, hcount⟩ := (lending_exclusive [2, 1] sampleMoves).2.1 0 2 desk rfl hdesk
  exact ⟨desk, hdesk, hleased, hperm, hcount⟩

end Hall
end MemoryPlan
