import MemoryPlan.Session
import MemoryPlan.Proofs.Association
import MemoryPlan.Proofs.Lending.Conservation
import MemoryPlan.Proofs.Network.Answers
import MemoryPlan.Proofs.Network.Serving
/-!
# Balance of sessions

One caller works with networks on one host device: it takes leases and gives them back, and makes requests,
but makes no call that would block. After each of its calls every region is either free or held by it, nobody
waits, and the live allocations and the counts of the device are those at the beginning (`Session.Balanced`).
A call either moves one region between the free and the held ones, or takes a region and gives it back.
-/

namespace MemoryPlan

namespace Lease

/-- The slots of an item among held leases. -/
def slotsOn (on : Nat) (leases : List (String × Lease)) : List Nat :=
  (leases.filter fun (_, lease) => lease.item = on).map fun (_, lease) => lease.slot

variable {on slot : Nat} {leases remaining : List (String × Lease)} {name : String}

/-- An item has as many held slots as leases on it. -/
theorem length_slotsOn (on : Nat) (leases : List (String × Lease)) :
    (slotsOn on leases).length = leases.countP fun (_, lease) => lease.item = on := by
  rw [slotsOn, List.length_map, List.countP_eq_length_filter]

/-- One more lease is one more slot of its item, and of no other one. -/
theorem slotsOn_of_perm (h : leases.Perm ((name, ⟨on, slot⟩) :: remaining)) :
    (slotsOn on leases).Perm (slot :: slotsOn on remaining) ∧
      ∀ other, other ≠ on → (slotsOn other leases).Perm (slotsOn other remaining) := by
  have hslots : ∀ other, (slotsOn other leases).Perm (slotsOn other ((name, ⟨on, slot⟩) :: remaining)) :=
    fun other => (h.filter _).map _
  constructor
  · refine (hslots on).trans (.of_eq ?_)
    simp [slotsOn]
  · intro other hne
    refine (hslots other).trans (.of_eq ?_)
    simp [slotsOn, Ne.symm hne]

end Lease

/-- How many leases of an item are held. -/
def Session.heldOn {δ : Type} (session : Session δ) (on : Nat) : Nat :=
  session.leases.countP fun (_, lease) => lease.item = on

/-- The answer in a reply, if the request came to a good end. -/
def Reply.outputs? : Reply → Option Outputs
  | .served (.ok outputs) => some outputs
  | .servedWithin (.ok (some outputs)) => some outputs
  | _ => none

namespace Command

/-- The network that a command makes a request on. -/
def request? : Command → Option Nat
  | .infer on _ => some on
  | .inferWithin on _ _ => some on
  | .execute on _ _ => some on
  | _ => none

/-- The commands of a caller that works alone: it takes leases, by new names, and gives them back, and makes
requests. It asks for a region without a deadline only if one is free, since nobody else could give one
back. -/
def Alone {δ : Type} [Device δ] (session : Session δ) : Command → Prop
  | .acquire on name =>
    name ∉ session.leases.map Prod.fst ∧
      ∀ item, session.item? on = some item → 0 < item.regions.available
  | .tryAcquire _ name => name ∉ session.leases.map Prod.fst
  | .acquireWithin _ name _ => name ∉ session.leases.map Prod.fst
  | .release _ _ => True
  | .infer _ _ => True
  | .inferWithin _ _ _ => True
  | .execute _ _ _ => True
  | _ => False

end Command

namespace Session

/-- Sessions in which any number of networks were compiled on one host device, one after the other. Between
two compilations the device may be used for anything else. -/
inductive Compiled : Session HostDevice → Prop where
  /-- No network was compiled yet. -/
  | fresh (device : HostDevice) : Compiled { devices := [device] }
  /-- The device was used otherwise. -/
  | elsewhere {session : Session HostDevice} (h : Compiled session) (device : HostDevice) :
      Compiled { session with devices := [device] }
  /-- A network was compiled; a failure leaves an empty place. -/
  | compile {session : Session HostDevice} (h : Compiled session) (graph : Graph) (registry : Registry)
      (config : PlanConfig) :
      Compiled (session.addMade 0 (Network.compile graph registry config) (Item.network 0)).2

/-- The sessions that a caller who works alone reaches. -/
inductive Alone (start : Session HostDevice) : Session HostDevice → Prop where
  /-- Nothing was asked for yet. -/
  | start : Alone start start
  /-- A command that does not block. -/
  | step {session : Session HostDevice} {command : Command} (h : Alone start session)
      (hcommand : command.Alone session) : Alone start (session.step command).2
  /-- A request that is begun without a look at the free regions: wrong inputs are refused before a region is
  asked for. A request that would have to wait leaves the queue again. -/
  | serve {session : Session HostDevice} {on device : Nat} {network : Network} (h : Alone start session)
      (hitem : session.item? on = some (.network device network)) (inputs : Inputs) :
      Alone start (session.serve on device network inputs).2

/-- Of the regions of each item, those are free that are not held, and all else is as at the beginning. -/
structure Balanced (start session : Session HostDevice) : Prop where
  /-- The live allocations of the device and its counts are those at the beginning. -/
  device : ∃ was now, start.devices = [was] ∧ session.devices = [now] ∧ was.Steady now
  /-- The items differ in their free regions only. -/
  items : ∀ on, (session.item? on).map (Item.withLending {}) = (start.item? on).map (Item.withLending {})
  /-- Nobody waits. -/
  idle : ∀ on item, session.item? on = some item → item.regions.lending.waiting = []
  /-- Each region is free or held, exactly once. -/
  slots : ∀ on item, session.item? on = some item →
    (item.regions.lending.free ++ Lease.slotsOn on session.leases).Perm (List.range item.regions.size)
  /-- The names of the leases are distinct. -/
  leases : (session.leases.map Prod.fst).Nodup
  /-- The names of the results of a network are distinct. -/
  results : ∀ on device network, session.item? on = some (.network device network) →
    (network.results.map Binding.name).Nodup

section

variable {δ : Type} {session : Session δ} {on : Nat}

/-- A new item stands behind the others, which stay. -/
theorem item?_addItem (session : Session δ) (place : Option Item) (on : Nat) :
    (session.addItem place).item? on =
      if on = session.items.length then place else session.item? on := by
  unfold item? addItem
  dsimp only
  split
  · next hlast =>
    rw [hlast, List.getElem?_concat_length]
    rfl
  · next hother =>
    rw [List.getElem?_append, List.getElem?_singleton]
    grind

/-- A command about an item is refused or goes on with the item. -/
theorem withItem_eq (session : Session δ) (on : Nat) (next : Item → Reply × Session δ) :
    session.withItem on next = (.noItem, session) ∨
      ∃ item, session.item? on = some item ∧ session.withItem on next = next item := by
  unfold withItem
  cases hitem : session.item? on with
  | none => exact Or.inl rfl
  | some item => exact Or.inr ⟨item, rfl, rfl⟩

/-- A caller that finds a free region and nobody waiting gets a lease on it. -/
theorem tryAcquire_eq {session : Session δ} {item : Item} {lending : Lending} {slot : Nat} {name : String}
    (hitem : session.item? on = some item) (htake : item.regions.lending.tryTake? = some (slot, lending)) :
    session.tryAcquire on name =
      (.leased slot, (session.setLending on lending).hold name ⟨on, slot⟩) := by
  unfold tryAcquire withItem
  rw [hitem]
  dsimp only
  rw [htake]

/-- A command about a network is refused or goes on with the network. -/
theorem withNetwork_eq (session : Session δ) (on : Nat) (next : Nat → Network → Reply × Session δ) :
    session.withNetwork on next = (.noItem, session) ∨
      ∃ device network, session.item? on = some (.network device network) ∧
        session.withNetwork on next = next device network := by
  unfold withNetwork
  split
  · next device network hitem => exact Or.inr ⟨device, network, hitem, rfl⟩
  · exact Or.inl rfl

/-- A command about a lease is refused or goes on with the lease and its item. -/
theorem withLease_eq (session : Session δ) (name : String) (next : Lease → Item → Reply × Session δ) :
    (∃ reply : Reply, reply.outputs? = none ∧ session.withLease name next = (reply, session)) ∨
      ∃ lease item, session.leases.lookup name = some lease ∧ session.item? lease.item = some item ∧
        session.withLease name next = next lease item := by
  unfold withLease
  cases hheld : session.leases.lookup name with
  | none => exact Or.inl ⟨.noLease, rfl, rfl⟩
  | some lease =>
    dsimp only
    cases hitem : session.item? lease.item with
    | none => exact Or.inl ⟨.noItem, rfl, rfl⟩
    | some item => exact Or.inr ⟨lease, item, rfl, hitem, rfl⟩

/-- Work on a device changes that device and the journal, if there is such a device. -/
theorem visit_eq {α : Type} (session : Session δ) (device : Nat) (work : Site δ → α × Site δ) :
    session.devices[device]? = none ∧ session.visit device work = (none, session) ∨
      ∃ present, session.devices[device]? = some present ∧
        session.visit device work =
          (some (work ⟨present, session.journal⟩).1,
            { session with
              devices := session.devices.set device (work ⟨present, session.journal⟩).2.device
              journal := (work ⟨present, session.journal⟩).2.journal }) := by
  unfold visit
  cases hdevice : session.devices[device]? with
  | none => exact Or.inl ⟨rfl, rfl⟩
  | some present => exact Or.inr ⟨present, rfl, rfl⟩

end

/-- After compilations no lease is held, all regions are free, and the names of results are distinct. -/
theorem Compiled.ready {start : Session HostDevice} (h : start.Compiled) :
    (∃ device, start.devices = [device]) ∧ start.leases = [] ∧
      ∀ on item, start.item? on = some item → ∃ network, item = .network 0 network ∧
        network.pool.lending = .ofCount network.pool.size ∧
        (network.results.map Binding.name).Nodup := by
  induction h with
  | fresh device => exact ⟨⟨device, rfl⟩, rfl, fun _ _ hitem => nomatch hitem⟩
  | elsewhere h device ih => exact ⟨⟨device, rfl⟩, ih.2⟩
  | @compile session h graph registry config ih =>
    obtain ⟨⟨device, hdevices⟩, hleases, hitems⟩ := ih
    obtain ⟨hnone, -⟩ | ⟨present, -, hvisit⟩ :=
      session.visit_eq 0 (Network.compile graph registry config)
    · rw [hdevices] at hnone
      cases hnone
    · unfold addMade
      rw [hvisit, hdevices]
      cases hmade : Network.compile graph registry config ⟨present, session.journal⟩ with
      | mk outcome after =>
        cases outcome with
        | ok network =>
          refine ⟨⟨after.device, rfl⟩, hleases, ?_⟩
          intro on item hitem
          rw [item?_addItem] at hitem
          split at hitem
          · obtain rfl := Option.some.inj hitem
            exact ⟨network, rfl, Network.compile_idle hmade⟩
          · exact hitems on item hitem
        | error halt =>
          refine ⟨⟨after.device, rfl⟩, hleases, ?_⟩
          intro on item hitem
          rw [item?_addItem] at hitem
          split at hitem
          · cases hitem
          · exact hitems on item hitem

/-- A session of compiled networks is balanced before its first call. -/
theorem Compiled.balanced {start : Session HostDevice} (h : start.Compiled) : Balanced start start := by
  obtain ⟨⟨device, hdevice⟩, hleases, hitems⟩ := h.ready
  refine ⟨⟨device, device, hdevice, hdevice, .refl device⟩, fun _ => rfl, ?_, ?_, ?_, ?_⟩
  · intro on item hitem
    obtain ⟨network, rfl, hlending, -⟩ := hitems on item hitem
    change network.pool.lending.waiting = []
    rw [hlending]
    rfl
  · intro on item hitem
    obtain ⟨network, rfl, hlending, -⟩ := hitems on item hitem
    rw [hleases]
    change (network.pool.lending.free ++ []).Perm (List.range network.pool.size)
    rw [hlending, List.append_nil]
    exact .refl _
  · rw [hleases]
    exact List.nodup_nil
  · intro on index network hitem
    obtain ⟨other, heq, -, hnames⟩ := hitems on _ hitem
    cases heq
    exact hnames

namespace Balanced

variable {start session after : Session HostDevice} {on slot : Nat} {item : Item} {lending : Lending}
  {name : String} {device : Nat} {network : Network} {inputs : Inputs}

/-- Whatever changes the free regions of an item and the leases, but keeps the account of every item, keeps the
balance. -/
theorem lend (h : Balanced start session) (hitem : session.item? on = some item)
    (hdevices : after.devices = session.devices) (hitems : after.items = (session.setLending on lending).items)
    (hleases : (after.leases.map Prod.fst).Nodup) (hidle : lending.waiting = [])
    (hself : (lending.free ++ Lease.slotsOn on after.leases).Perm
      (item.regions.lending.free ++ Lease.slotsOn on session.leases))
    (hothers : ∀ other, other ≠ on →
      (Lease.slotsOn other after.leases).Perm (Lease.slotsOn other session.leases)) :
    Balanced start after := by
  have hplace : ∀ other, after.item? other = (session.setLending on lending).item? other := by
    intro other
    unfold item?
    rw [hitems]
  have hown : after.item? on = some (item.withLending lending) := by
    rw [hplace, item?_setLending_self, hitem]
    rfl
  have hother : ∀ other, other ≠ on → after.item? other = session.item? other := by
    intro other hne
    rw [hplace, item?_setLending_of_ne hne]
  have hfound : ∀ {other found}, after.item? other = some found →
      other = on ∧ found = item.withLending lending ∨ other ≠ on ∧ session.item? other = some found := by
    intro other found hafter
    by_cases hon : other = on
    · rw [hon, hown] at hafter
      exact Or.inl ⟨hon, (Option.some.inj hafter).symm⟩
    · rw [hother other hon] at hafter
      exact Or.inr ⟨hon, hafter⟩
  refine ⟨?_, ?_, ?_, ?_, hleases, ?_⟩
  · rw [hdevices]
    exact h.device
  · intro other
    by_cases hon : other = on
    · rw [hon, hown, ← h.items, hitem]
      cases item <;> rfl
    · rw [hother other hon, h.items]
  · intro other found hafter
    obtain ⟨rfl, rfl⟩ | ⟨-, hkept⟩ := hfound hafter
    · cases item <;> exact hidle
    · exact h.idle other found hkept
  · intro other found hafter
    obtain ⟨rfl, rfl⟩ | ⟨hne, hkept⟩ := hfound hafter
    · have hslots := hself.trans (h.slots other item hitem)
      cases item <;> exact hslots
    · exact ((hothers other hne).append_left _).trans (h.slots other found hkept)
  · intro other index network hafter
    obtain ⟨rfl, hlent⟩ | ⟨-, hkept⟩ := hfound hafter
    · cases item with
      | pool => cases hlent
      | network _ made =>
        cases hlent
        exact h.results other index made hitem
    · exact h.results other index network hkept

/-- A region is taken, and a lease on it is held from now on. -/
theorem take (h : Balanced start session) (hitem : session.item? on = some item)
    (hdevices : after.devices = session.devices) (hitems : after.items = (session.setLending on lending).items)
    (hleases : after.leases = session.leases ++ [(name, ⟨on, slot⟩)])
    (hnew : name ∉ session.leases.map Prod.fst) (hidle : lending.waiting = [])
    (hfree : item.regions.lending.free = slot :: lending.free) : Balanced start after := by
  have hperm : after.leases.Perm ((name, ⟨on, slot⟩) :: session.leases) := by
    rw [hleases]
    exact List.perm_append_singleton _ _
  obtain ⟨hown, hothers⟩ := Lease.slotsOn_of_perm hperm
  refine h.lend hitem hdevices hitems ?_ hidle ?_ hothers
  · have hnames := hperm.map Prod.fst
    exact hnames.nodup_iff.mpr (List.nodup_cons.mpr ⟨hnew, h.leases⟩)
  · rw [hfree]
    exact (hown.append_left lending.free).trans List.perm_middle

/-- A lease goes back, and its region is free from now on. -/
theorem give (h : Balanced start session) (hitem : session.item? on = some item)
    (hdevices : after.devices = session.devices)
    (hitems : after.items = (session.setLending on (item.regions.lending.giveBack slot)).items)
    (hleases : session.leases.Perm ((name, ⟨on, slot⟩) :: after.leases)) : Balanced start after := by
  obtain ⟨hown, hothers⟩ := Lease.slotsOn_of_perm hleases
  refine h.lend hitem hdevices hitems ?_ (h.idle on item hitem) ?_ fun other hne => (hothers other hne).symm
  · have hnames := (hleases.map Prod.fst).nodup_iff.mp h.leases
    exact (List.nodup_cons.mp hnames).2
  · change (item.regions.lending.free ++ [slot] ++ _).Perm _
    rw [List.append_assoc]
    exact hown.symm.append_left _

/-- A region is taken and given back. -/
theorem restore (h : Balanced start session) (hitem : session.item? on = some item)
    (hdevices : after.devices = session.devices) (hitems : after.items = (session.setLending on lending).items)
    (hleases : after.leases = session.leases) (hrestored : item.regions.lending.Restored lending) :
    Balanced start after := by
  refine h.lend hitem hdevices hitems ?_ hrestored.idle ?_ ?_
  · rw [hleases]
    exact h.leases
  · rw [hleases]
    exact hrestored.free.append_right _
  · intro other _
    rw [hleases]

/-- The device goes on steadily, and nothing else changes. -/
theorem visit (h : Balanced start session) {present next : HostDevice}
    (hpresent : session.devices[device]? = some present) (hsteady : present.Steady next) (journal : Journal) :
    Balanced start { session with devices := session.devices.set device next, journal } := by
  obtain ⟨was, now, hwas, hnow, hold⟩ := h.device
  rw [hnow] at hpresent ⊢
  obtain rfl : device = 0 := by
    have hlt := (List.getElem?_eq_some_iff.mp hpresent).1
    rw [List.length_singleton] at hlt
    exact Nat.lt_one_iff.mp hlt
  obtain rfl := Option.some.inj hpresent
  exact ⟨⟨was, next, hwas, rfl, hold.trans hsteady⟩, h.items, h.idle, h.slots, h.leases, h.results⟩

/-- The device goes on steadily while a region is taken and given back. -/
theorem borrow (h : Balanced start session) (hitem : session.item? on = some item)
    {present next : HostDevice} (hpresent : session.devices[device]? = some present)
    (hsteady : present.Steady next) (hrestored : item.regions.lending.Restored lending) (journal : Journal) :
    Balanced start (({ session with devices := session.devices.set device next, journal } :
      Session HostDevice).setLending on lending) := by
  have hvisited := h.visit hpresent hsteady journal
  exact hvisited.restore hitem rfl rfl rfl hrestored

theorem note (h : Balanced start session) (event : Event) : Balanced start (session.note event) :=
  ⟨h.device, h.items, h.idle, h.slots, h.leases, h.results⟩

/-- A caller that takes a lease it need not wait for keeps the balance. -/
theorem acquire (h : Balanced start session) (hnew : name ∉ session.leases.map Prod.fst)
    (hroom : ∀ item, session.item? on = some item → 0 < item.regions.available) :
    Balanced start (session.acquire on name).2 := by
  unfold Session.acquire
  obtain hrefused | ⟨item, hitem, hnext⟩ := session.withItem_eq on _
  · rw [hrefused]
    exact h
  · rw [hnext]
    have hidle := h.idle on item hitem
    split
    · next slot lending hacquire =>
      obtain ⟨-, rest, hfree, rfl⟩ := (Lending.ordered_of_idle hidle).acquire_inl hacquire
      exact h.take hitem rfl rfl rfl hnew rfl hfree
    · next ticket lending hacquire =>
      -- where nobody waits, only an exhausted pool makes a caller wait
      have hempty : item.regions.lending.free = [] := (Lending.acquire_inr hacquire).2.2 hidle
      have hpos : 0 < item.regions.lending.free.length := hroom item hitem
      rw [hempty] at hpos
      exact absurd hpos (Nat.lt_irrefl 0)

/-- A caller that would not wait keeps the balance, with or without a lease. -/
theorem tryAcquire (h : Balanced start session) (hnew : name ∉ session.leases.map Prod.fst) :
    Balanced start (session.tryAcquire on name).2 := by
  unfold Session.tryAcquire
  obtain hrefused | ⟨item, hitem, hnext⟩ := session.withItem_eq on _
  · rw [hrefused]
    exact h
  · rw [hnext]
    split
    · next slot lending htake =>
      obtain ⟨rest, hidle, hfree, rfl⟩ := Lending.tryTake?_eq_some.mp htake
      exact h.take hitem rfl rfl rfl hnew hidle hfree
    · exact h

/-- A caller that gives up at its deadline keeps the balance, with or without a lease. -/
theorem acquireWithin (h : Balanced start session) (hnew : name ∉ session.leases.map Prod.fst) (ms : Nat) :
    Balanced start (session.acquireWithin on name ms).2 := by
  unfold Session.acquireWithin
  obtain hrefused | ⟨item, hitem, hnext⟩ := session.withItem_eq on _
  · rw [hrefused]
    exact h
  · rw [hnext]
    have hidle := h.idle on item hitem
    split
    · next slot lending hacquire =>
      obtain ⟨-, rest, hfree, rfl⟩ := (Lending.ordered_of_idle hidle).acquireOrLeave_some hacquire
      exact h.take hitem rfl rfl rfl hnew rfl hfree
    · next lending hacquire =>
      exact h.restore hitem rfl rfl rfl (Lending.restored_acquireOrLeave_none hidle hacquire)

/-- A lease that goes back is handed to nobody, since nobody waits. -/
theorem drop (h : Balanced start session) {lease : Lease} (hheld : session.leases.lookup name = some lease)
    (hitem : session.item? lease.item = some item) : Balanced start (session.drop name lease).2 := by
  have hleft := Association.perm_cons_filter h.leases hheld
  have hfreed : ∀ leases, ({ session with leases } : Session HostDevice).item? lease.item = some item :=
    fun _ => hitem
  have hidle : (item.regions.lending.giveBack lease.slot).waiting = [] := h.idle lease.item item hitem
  unfold Session.drop
  dsimp only
  rw [hfreed]
  dsimp only
  unfold handOver
  rw [hidle]
  exact h.give hitem rfl rfl hleft

/-- A lease that goes back keeps the balance, whatever pool it is handed to. -/
theorem release (h : Balanced start session) (name : String) (through : Option Nat) :
    Balanced start (session.release name through).2 := by
  unfold Session.release
  obtain ⟨reply, -, hrefused⟩ | ⟨lease, item, hheld, hitem, hnext⟩ := session.withLease_eq name _
  · rw [hrefused]
    exact h
  · rw [hnext]
    split
    · exact h.drop hheld hitem
    · next on =>
      obtain hrefused | ⟨_, -, hnext⟩ := session.withItem_eq on _
      · rw [hrefused]
        exact h
      · rw [hnext]
        split
        · exact h.drop hheld hitem
        · exact (h.note _).drop hheld hitem

/-- A request that asks for a region itself gives it back, and its answer is complete. -/
theorem serve (h : Balanced start session) (hitem : session.item? on = some (.network device network))
    (inputs : Inputs) : Balanced start (session.serve on device network inputs).2 ∧
      (session.serve on device network inputs).2.leases = session.leases ∧
      ∀ outputs, (session.serve on device network inputs).1 = some (.ok outputs) →
        network.Answers outputs := by
  have hidle : network.pool.lending.waiting = [] := h.idle on _ hitem
  have hnames := h.results on device network hitem
  unfold Session.serve
  dsimp only
  obtain ⟨-, hvisit⟩ | ⟨present, hpresent, hvisit⟩ := session.visit_eq device _
  · rw [hvisit]
    exact ⟨h, rfl, fun _ houtputs => nomatch houtputs⟩
  · rw [hvisit]
    cases hinfer : network.infer inputs ⟨present, session.journal⟩ with
    | mk served rest =>
      obtain ⟨lending, site⟩ := rest
      cases served with
      | finished outcome =>
        obtain ⟨hrestored, hsteady, hanswers⟩ := Network.infer_finished hidle hnames hinfer
        refine ⟨h.borrow hitem hpresent hsteady hrestored site.journal, rfl, ?_⟩
        intro outputs houtputs
        exact hanswers outputs (Option.some.inj houtputs)
      | waiting ticket =>
        obtain ⟨hrestored, hsteady⟩ := Network.infer_waiting hidle hinfer
        exact ⟨h.borrow hitem hpresent hsteady hrestored site.journal, rfl, fun _ houtputs => nomatch houtputs⟩

/-- A request with a deadline gives its region back, and its answer is complete. -/
theorem inferWithin (h : Balanced start session) (hitem : session.item? on = some (.network device network))
    (ms : Nat) (inputs : Inputs) : Balanced start (session.inferWithin on device network ms inputs).2 ∧
      (session.inferWithin on device network ms inputs).2.leases = session.leases ∧
      ∀ outputs, (session.inferWithin on device network ms inputs).1.outputs? = some outputs →
        network.Answers outputs := by
  have hidle : network.pool.lending.waiting = [] := h.idle on _ hitem
  have hnames := h.results on device network hitem
  unfold Session.inferWithin
  dsimp only
  obtain ⟨-, hvisit⟩ | ⟨present, hpresent, hvisit⟩ := session.visit_eq device _
  · rw [hvisit]
    exact ⟨h, rfl, fun _ houtputs => nomatch houtputs⟩
  · rw [hvisit]
    cases hinfer : network.inferWithin inputs ms ⟨present, session.journal⟩ with
    | mk outcome rest =>
      obtain ⟨lending, site⟩ := rest
      obtain ⟨hrestored, hsteady, hanswers⟩ := Network.inferWithin_spec hidle hnames hinfer
      refine ⟨h.borrow hitem hpresent hsteady hrestored site.journal, rfl, ?_⟩
      intro outputs houtputs
      apply hanswers
      match outcome, houtputs with
      | .ok (some _), houtputs => rw [Option.some.inj houtputs]

/-- A request on a lease leaves the lease, and its answer is complete. -/
theorem execute (h : Balanced start session) (hitem : session.item? on = some (.network device network))
    (owned : Bool) (slot : Nat) (inputs : Inputs) :
    Balanced start (session.visit device (network.execute owned slot inputs)).2 ∧
      (session.visit device (network.execute owned slot inputs)).2.leases = session.leases ∧
      ∀ outputs, (replyOr Reply.served (session.visit device (network.execute owned slot inputs)).1).outputs? =
          some outputs → network.Answers outputs := by
  obtain ⟨-, hvisit⟩ | ⟨present, hpresent, hvisit⟩ :=
    session.visit_eq device (network.execute owned slot inputs)
  · rw [hvisit]
    exact ⟨h, rfl, fun _ houtputs => nomatch houtputs⟩
  · rw [hvisit]
    have hsteady := network.execute_steady owned slot inputs ⟨present, session.journal⟩
    refine ⟨h.visit hpresent hsteady _, rfl, ?_⟩
    intro outputs houtputs
    dsimp only [replyOr] at houtputs
    cases hexecute : network.execute owned slot inputs ⟨present, session.journal⟩ with
    | mk outcome site =>
      rw [hexecute] at houtputs
      match outcome, houtputs with
      | .ok answer, houtputs =>
        obtain rfl := Option.some.inj houtputs
        exact Network.execute_answers (h.results on device network hitem) hexecute

/-- A request keeps the balance and the leases, and its answer is complete. -/
theorem request (h : Balanced start session) {command : Command} (hrequest : command.request? = some on) :
    Balanced start (session.step command).2 ∧ (session.step command).2.leases = session.leases ∧
      ∀ outputs, (session.step command).1.outputs? = some outputs →
        ∃ device network, session.item? on = some (.network device network) ∧ network.Answers outputs := by
  cases command with
  | infer on inputs =>
    obtain rfl := Option.some.inj hrequest
    dsimp only [Session.step]
    obtain hrefused | ⟨device, network, hitem, hnext⟩ := session.withNetwork_eq on _
    · rw [hrefused]
      exact ⟨h, rfl, fun _ houtputs => nomatch houtputs⟩
    · rw [hnext]
      obtain ⟨hafter, hleases, hanswers⟩ := h.serve hitem inputs
      split
      · exact ⟨h, rfl, fun _ houtputs => nomatch houtputs⟩
      · refine ⟨hafter, hleases, ?_⟩
        intro outputs houtputs
        refine ⟨device, network, hitem, hanswers outputs ?_⟩
        dsimp only at houtputs
        match hserved : (session.serve on device network inputs).1 with
        | some (.ok answer) =>
          rw [hserved] at houtputs
          rw [Option.some.inj houtputs]
        | some (.error halt) =>
          rw [hserved] at houtputs
          cases houtputs
        | none =>
          rw [hserved] at houtputs
          cases houtputs
  | inferWithin on ms inputs =>
    obtain rfl := Option.some.inj hrequest
    dsimp only [Session.step]
    obtain hrefused | ⟨device, network, hitem, hnext⟩ := session.withNetwork_eq on _
    · rw [hrefused]
      exact ⟨h, rfl, fun _ houtputs => nomatch houtputs⟩
    · rw [hnext]
      obtain ⟨hafter, hleases, hanswers⟩ := h.inferWithin hitem ms inputs
      exact ⟨hafter, hleases, fun outputs houtputs => ⟨device, network, hitem, hanswers outputs houtputs⟩⟩
  | execute on lease inputs =>
    obtain rfl := Option.some.inj hrequest
    dsimp only [Session.step]
    obtain ⟨reply, hnone, hrefused⟩ | ⟨held, _, -, -, hnext⟩ := session.withLease_eq lease _
    · rw [hrefused]
      refine ⟨h, rfl, fun outputs houtputs => ?_⟩
      rw [hnone] at houtputs
      cases houtputs
    · rw [hnext]
      obtain hrefused | ⟨device, network, hitem, hnext⟩ := session.withNetwork_eq on _
      · rw [hrefused]
        exact ⟨h, rfl, fun _ houtputs => nomatch houtputs⟩
      · rw [hnext]
        obtain ⟨hafter, hleases, hanswers⟩ := h.execute hitem (held.item == on) held.slot inputs
        exact ⟨hafter, hleases, fun outputs houtputs => ⟨device, network, hitem, hanswers outputs houtputs⟩⟩
  | acquire | tryAcquire | acquireWithin | release | describe | resolve | poke | peek | write | read | free
  | inspect | inferMany => cases hrequest

/-- Every command of a caller that works alone keeps the balance. -/
theorem step (h : Balanced start session) {command : Command} (hcommand : command.Alone session) :
    Balanced start (session.step command).2 := by
  cases command with
  | acquire on name => exact h.acquire hcommand.1 hcommand.2
  | tryAcquire on name => exact h.tryAcquire hcommand
  | acquireWithin on name ms => exact h.acquireWithin hcommand ms
  | release lease through => exact h.release lease through
  | infer on inputs => exact (h.request rfl).1
  | inferWithin on ms inputs => exact (h.request rfl).1
  | execute on lease inputs => exact (h.request rfl).1
  | describe | resolve | poke | peek | write | read | free | inspect | inferMany => exact hcommand.elim

end Balanced

/-- Whatever a caller that works alone did, the session is balanced. -/
theorem Alone.balanced {start session : Session HostDevice} (h : Alone start session)
    (hcompiled : start.Compiled) : Balanced start session := by
  induction h with
  | start => exact hcompiled.balanced
  | step h hcommand ih => exact ih.step hcommand
  | serve h hitem inputs ih => exact (ih.serve hitem inputs).1

/-- Requests give back what they took. Whatever a caller does that works alone with networks on a host device,
and however the kernels end: the device has the live allocations and the counts that it had at the beginning,
the networks differ in their free regions only, nobody waits, and those regions are free that the caller does
not hold. A request leaves the leases as they are, and every answer has one entry for each result of its
network, of the size of the result. A lease that is given back is held no longer, its region is the last of the free
ones, and nobody gets it at once. -/
theorem requests_give_back {start session : Session HostDevice} (hcompiled : start.Compiled)
    (halone : Alone start session) :
    (∃ was now, start.devices = [was] ∧ session.devices = [now] ∧ now.stats = was.stats ∧
      now.extents = was.extents) ∧
    (∀ on, (session.item? on).map (Item.withLending {}) = (start.item? on).map (Item.withLending {})) ∧
    (∀ on item, session.item? on = some item →
      item.regions.waiting = 0 ∧ session.heldOn on ≤ item.regions.size ∧
        item.regions.available = item.regions.size - session.heldOn on ∧
        (item.regions.lending.free ++ Lease.slotsOn on session.leases).Perm
          (List.range item.regions.size)) ∧
    (∀ command on, command.request? = some on →
      (session.step command).2.leases = session.leases ∧
        ∀ outputs, (session.step command).1.outputs? = some outputs →
          ∃ device network, session.item? on = some (.network device network) ∧ network.Answers outputs) ∧
    (∀ on device network inputs, session.item? on = some (.network device network) →
      (session.serve on device network inputs).2.leases = session.leases ∧
        ∀ outputs, (session.serve on device network inputs).1 = some (.ok outputs) →
          network.Answers outputs) ∧
    ∀ name lease item through, session.leases.lookup name = some lease → session.item? lease.item = some item →
      (∀ other, through = some other → ∃ passed, session.item? other = some passed) →
      ∃ after, session.step (.release name through) = (.granted [], after) ∧
        session.GivesBack name lease item [] after := by
  have hbalanced := halone.balanced hcompiled
  refine ⟨?_, hbalanced.items, ?_, ?_, ?_, ?_⟩
  · obtain ⟨was, now, hwas, hnow, halike, hstats⟩ := hbalanced.device
    exact ⟨was, now, hwas, hnow, hstats, halike.1⟩
  · intro on item hitem
    have hslots := hbalanced.slots on item hitem
    have hcount := hslots.length_eq
    rw [List.length_append, Lease.length_slotsOn, List.length_range] at hcount
    have htotal : item.regions.available + session.heldOn on = item.regions.size := hcount
    refine ⟨?_, by omega, by omega, hslots⟩
    exact List.length_eq_zero_iff.mpr (hbalanced.idle on item hitem)
  · intro command on hrequest
    exact (hbalanced.request hrequest).2
  · intro on device network inputs hitem
    exact (hbalanced.serve hitem inputs).2
  · intro name lease item through hheld hitem hthrough
    obtain ⟨granted, after, hreleased, hback⟩ := release_givesBack hheld hitem through hthrough
    obtain rfl := hback.idle (hbalanced.idle lease.item item hitem)
    exact ⟨after, hreleased, hback⟩

/-- The doublings, compiled on a device with 65536 bytes. -/
def doublings : Session HostDevice :=
  (({ devices := [Network.sampleSite.device] } : Session HostDevice).addMade 0
    (Network.compile .doublings .doubling {}) (Item.network 0)).2

/-- The session of the doublings has one network, whose eight regions are free. -/
theorem doublings_eq :
    ∃ network after, Network.compile .doublings .doubling {} Network.sampleSite = (.ok network, after) ∧
      network.parameters = [⟨"x", 0, ⟨0⟩, 4⟩] ∧ network.pool.size = 8 ∧
      network.pool.lending = ⟨[0, 1, 2, 3, 4, 5, 6, 7], [], 0⟩ ∧
      doublings =
        { devices := [after.device], items := [some (.network 0 network)], journal := after.journal } := by
  obtain ⟨network, after, hcompile, hsize, hparameters⟩ := Network.compile_doublings
  have hlending := (Network.compile_idle hcompile).1
  rw [hsize] at hlending
  refine ⟨network, after, hcompile, hparameters, hsize, hlending, ?_⟩
  have hvisit : ({ devices := [Network.sampleSite.device] } : Session HostDevice).visit 0
      (Network.compile .doublings .doubling {}) =
        (some (.ok network), { devices := [after.device], journal := after.journal }) := by
    change (some (Network.compile .doublings .doubling {} Network.sampleSite).1,
      ({ devices := [(Network.compile .doublings .doubling {} Network.sampleSite).2.device]
         journal := (Network.compile .doublings .doubling {} Network.sampleSite).2.journal } :
        Session HostDevice)) = _
    rw [hcompile]
  unfold doublings addMade
  rw [hvisit]
  rfl

/-- While the caller holds a lease of the doublings, the seven other regions are free; a request on the lease
yields four bytes by the name `y`. -/
theorem requests_give_back_doublings :
    ∃ session item, session = (doublings.step (.tryAcquire 0 "a")).2 ∧ session.item? 0 = some item ∧
      item.regions.size = 8 ∧ item.regions.available = 7 ∧ item.regions.waiting = 0 ∧
      session.devices.map HostDevice.stats = doublings.devices.map HostDevice.stats ∧
      (session.step (.execute 0 "a" [("x", [1, 2, 3, 4])])).1.outputs? = some [("y", [8, 16, 24, 32])] ∧
      ∃ network, session.item? 0 = some (.network 0 network) ∧
        network.results.map (fun binding => (binding.name, binding.size)) = [("y", 4)] := by
  obtain ⟨network, after, hcompile, hparameters, hsize, hlending, hdoublings⟩ := doublings_eq
  have hcompiled : doublings.Compiled := .compile (.fresh _) _ _ _
  have hstep : doublings.step (.tryAcquire 0 "a") = (.leased 0,
      { devices := [after.device]
        items := [some (.network 0 (network.withLending ⟨[1, 2, 3, 4, 5, 6, 7], [], 0⟩))]
        leases := [("a", ⟨0, 0⟩)]
        journal := after.journal.push (.event (Lending.leasedEvent 0)) }) := by
    have htake : network.pool.lending.tryTake? = some (0, ⟨[1, 2, 3, 4, 5, 6, 7], [], 0⟩) := by
      rw [hlending]
      rfl
    rw [hdoublings]
    exact tryAcquire_eq rfl htake
  have hcommand : (Command.tryAcquire 0 "a").Alone doublings := by
    change "a" ∉ doublings.leases.map Prod.fst
    rw [hdoublings]
    exact List.not_mem_nil
  obtain ⟨⟨was, now, hwas, hnow, hstats, -⟩, -, hpools, hanswers, -⟩ :=
    requests_give_back hcompiled (.step .start hcommand)
  have hinputs : network.checkInputs [("x", [1, 2, 3, 4])] = .ok () :=
    Network.checkInputs_doublings hparameters rfl
  -- the lease is on the first region, and the request runs there as it does with all regions free
  have hserved : ((doublings.step (.tryAcquire 0 "a")).2.step
      (.execute 0 "a" [("x", [1, 2, 3, 4])])).1.outputs? = some [("y", [8, 16, 24, 32])] := by
    obtain ⟨a, plan, made⟩ := Network.compile_eq_ok (HostDevice.Reachable.fresh _ _ _ _ _).sound hcompile
    have hmeaning := made.retained.outcome_eq made Registry.doubling_performs (by omega : 0 < _) hinputs
    have hlent : ∀ lending journal, ((network.withLending lending).execute true 0 [("x", [1, 2, 3, 4])]
        ⟨after.device, journal⟩).1 = .ok [("y", [8, 16, 24, 32])] := by
      intro lending journal
      have haccepted : (network.withLending lending).checkInputs [("x", [1, 2, 3, 4])] = .ok () := hinputs
      rw [Network.execute_eq haccepted, Network.program_withLending, hmeaning]
      rfl
    rw [hstep]
    exact congrArg (fun outcome => (Reply.served outcome).outputs?) (hlent _ _)
  rw [hstep] at hnow hpools hanswers hserved ⊢
  obtain ⟨hwaiting, -, havailable, -⟩ := hpools 0 _ rfl
  obtain ⟨index, made, hmade, hentries, -⟩ := (hanswers _ 0 rfl).2 _ hserved
  obtain ⟨rfl, rfl⟩ := Item.network.inj (Option.some.inj hmade)
  refine ⟨_, _, rfl, rfl, hsize, ?_, hwaiting, ?_, hserved, _, rfl, hentries.symm⟩
  · rw [havailable]
    change network.pool.size - 1 = 7
    omega
  · rw [hwas, hnow, List.map_singleton, List.map_singleton, hstats]

end Session
end MemoryPlan
