import MemoryPlan.Network.Request
import MemoryPlan.Proofs.Gained
import MemoryPlan.Proofs.Lending.Queue
import MemoryPlan.Proofs.Network.Plan
/-!
# Answers

A program reads and writes bytes and does nothing else to a device: in whatever way it ends, the live
allocations and the counts of a host device stay. So a request leaves the device as steady, and on every way
out it gives back the region that it took. If it yields an answer, there is one entry for each result of the
network, with as many bytes as the result has.
-/

namespace MemoryPlan

namespace HostDevice

/-- The allocations are live that were live before, and nothing was counted; their bytes may differ. -/
def Steady (before after : HostDevice) : Prop := after.Alike before ∧ after.stats = before.stats

theorem Steady.refl (device : HostDevice) : device.Steady device := ⟨.refl device, rfl⟩

theorem Steady.trans {a b c : HostDevice} (hab : a.Steady b) (hbc : b.Steady c) : a.Steady c :=
  ⟨hbc.1.trans hab.1, hbc.2.trans hab.2⟩

/-- A write that succeeds changes bytes, and one that fails changes nothing. -/
theorem steady_copyIn (device : HostDevice) (address : Address) (data : Bytes) :
    device.Steady (Device.copyIn device address data).2 := by
  change device.Steady (settle device ((device.copyIn address data).map fun after => ((), after))).2
  cases hop : device.copyIn address data with
  | error halt => exact .refl device
  | ok after => exact ⟨extents_copyIn hop, (counts_copyIn hop).1⟩

/-- A read yields as many bytes as were asked for. -/
theorem length_copyOut {device : HostDevice} {address : Address} {length : Nat} {data : Bytes}
    (hop : device.copyOut address length = .ok data) : data.length = length := by
  obtain ⟨a, -, rfl⟩ := Except.map_eq_ok.mp hop
  exact Allocation.length_read ..

end HostDevice

namespace Program

variable {α β : Type}

/-- A program neither hands out memory nor takes it back, also when it ends early. -/
theorem run_steady (program : Program α) (site : Site HostDevice) :
    site.device.Steady (program.run site).2.device := by
  induction program generalizing site with
  | done value => exact .refl site.device
  | stop halt => exact .refl site.device
  | read address length next ih =>
    -- the device after a read is the device before it
    unfold run
    dsimp only
    split
    · exact ih _ site
    · exact .refl site.device
  | write address data next ih =>
    have hwrite := HostDevice.steady_copyIn site.device address data
    unfold run
    dsimp only
    split
    · exact hwrite.trans (ih _ _)
    · exact hwrite
  | note event next ih => exact ih (site.note event)

/-- Whenever the program ends with a value on a host device, the value is good. -/
def Yields (program : Program α) (good : α → Prop) : Prop :=
  ∀ (site after : Site HostDevice) (value : α), program.run site = (.ok value, after) → good value

theorem yields_done {good : α → Prop} {value : α} (h : good value) : (done value).Yields good := by
  intro site after other hrun
  obtain ⟨rfl, -⟩ := Act.pure_eq_ok.mp hrun
  exact h

theorem yields_fail {good : α → Prop} (cause : PlanError) : (fail cause : Program α).Yields good := by
  intro site after value hrun
  cases hrun

/-- A program that goes on behind another one yields what its continuation yields. -/
theorem Yields.bind {program : Program α} {next : α → Program β} {early : α → Prop} {good : β → Prop}
    (h : program.Yields early) (hnext : ∀ value, early value → (next value).Yields good) :
    (program >>= next).Yields good := by
  intro site after value hrun
  rw [run_bind] at hrun
  obtain ⟨first, between, hfirst, hrest⟩ := Act.bind_eq_ok.mp hrun
  exact hnext first (h site between first hfirst) between after value hrest

/-- What the first part yields need not matter. -/
theorem yields_bind {program : Program α} {next : α → Program β} {good : β → Prop}
    (hnext : ∀ value, (next value).Yields good) : (program >>= next).Yields good := by
  have hany : program.Yields fun _ => True := fun _ _ _ _ => trivial
  exact hany.bind fun value _ => hnext value

/-- A device operation that was seen to succeed did succeed. -/
theorem seen_eq_ok {outcome : Except (Halt DeviceFault) α} {value : α}
    (h : seen outcome = .ok (.ok value)) : outcome = .ok value := by
  cases outcome with
  | ok other =>
    obtain rfl := Except.ok.inj (Except.ok.inj h)
    rfl
  | error halt => cases halt <;> cases h

/-- Fetched data have the length that was asked for. -/
theorem yields_fetch (address : Address) (length : Nat) :
    (fetch address length).Yields fun data => data.length = length := by
  unfold fetch
  split
  · next hzero => exact yields_done hzero.symm
  · intro site after data hrun
    unfold run at hrun
    dsimp only at hrun
    split at hrun
    · next result hseen =>
      cases result with
      | ok fetched =>
        obtain ⟨rfl, -⟩ := Act.pure_eq_ok.mp hrun
        exact HostDevice.length_copyOut (seen_eq_ok hseen)
      | error fault => cases hrun
    · cases hrun

end Program

namespace Lending

variable {lending after : Lending} {slot : Nat} {ticket : Ticket}

/-- Nobody waits, and the same regions are free as before, in whatever order. -/
structure Restored (before after : Lending) : Prop where
  /-- Nobody waits. -/
  idle : after.waiting = []
  /-- The same regions are free. -/
  free : after.free.Perm before.free

/-- Where nobody waits, the order is right. -/
theorem ordered_of_idle (hidle : lending.waiting = []) : lending.Ordered := by
  constructor <;> simp [hidle]

/-- The region that was lent first is free again when it comes back. -/
theorem restored_giveBack {rest : List Nat} (hfree : lending.free = slot :: rest) (nextTicket : Ticket) :
    lending.Restored (giveBack ⟨rest, [], nextTicket⟩ slot) := by
  refine ⟨rfl, ?_⟩
  rw [hfree]
  exact List.perm_append_singleton slot rest

/-- A slot that was taken and given back is restored. -/
theorem restored_acquire_inl (hidle : lending.waiting = []) (h : lending.acquire = (.inl slot, after)) :
    lending.Restored (after.giveBack slot) := by
  obtain ⟨-, rest, hfree, rfl⟩ := (ordered_of_idle hidle).acquire_inl h
  exact restored_giveBack hfree _

theorem restored_acquire_inr (hidle : lending.waiting = []) (h : lending.acquire = (.inr ticket, after)) :
    lending.Restored (after.abandon ticket) := by
  obtain ⟨rfl, rfl, -⟩ := acquire_inr h
  refine ⟨?_, .refl _⟩
  simp [abandon, hidle]

/-- A slot that was taken in time and given back is restored. -/
theorem restored_acquireOrLeave_some (hidle : lending.waiting = [])
    (h : lending.acquireOrLeave = (some slot, after)) : lending.Restored (after.giveBack slot) := by
  obtain ⟨-, rest, hfree, rfl⟩ := (ordered_of_idle hidle).acquireOrLeave_some h
  exact restored_giveBack hfree _

theorem restored_acquireOrLeave_none (hidle : lending.waiting = [])
    (h : lending.acquireOrLeave = (none, after)) : lending.Restored after := by
  obtain rfl := (ordered_of_idle hidle).acquireOrLeave_none h
  exact ⟨hidle, .refl _⟩

end Lending

namespace Network

variable {network : Network} {slot : Nat} {inputs : Inputs} {outputs : Outputs}

/-- An answer with one entry for each result of the network, of the size of the result. -/
structure Answers (network : Network) (outputs : Outputs) : Prop where
  /-- The entries are those of the results, in order, with their sizes. -/
  entries : outputs.map (fun (name, data) => (name, data.length)) =
    network.results.map fun binding => (binding.name, binding.size)
  /-- No name has a second entry. -/
  distinct : (outputs.map Prod.fst).Nodup

/-- The names of an answer with the sizes of their data. -/
def sizesOf (outputs : Outputs) : List (String × Nat) :=
  outputs.map fun (name, data) => (name, data.length)

/-- A result's name and size. -/
def entryOf (binding : Binding) : String × Nat := (binding.name, binding.size)

/-- A step adds the entry of its result, if it has one. -/
theorem runStep_yields (network : Network) (slot : Nat) (inputs : Inputs) (outputs : Outputs)
    (item : Step × Nat) :
    (network.runStep slot inputs outputs item).Yields fun after =>
      sizesOf after = sizesOf outputs ++ item.1.result?.toList.map entryOf := by
  obtain ⟨⟨operation, role⟩, position⟩ := item
  have hsame : sizesOf outputs = sizesOf outputs ++ [] := (List.append_nil _).symm
  cases role with
  | parameter binding =>
    unfold runStep
    dsimp only
    split
    · exact Program.yields_fail _
    · refine Program.yields_bind fun address => ?_
      exact Program.yields_bind fun _ => Program.yields_done hsame
  | result binding =>
    refine Program.yields_bind fun address => ?_
    refine (Program.yields_fetch address binding.size).bind fun data hdata => ?_
    refine Program.yields_done ?_
    have hentry : sizesOf [(binding.name, data)] = [entryOf binding] := by
      unfold entryOf
      rw [← hdata]
      rfl
    unfold sizesOf at hentry ⊢
    rw [List.map_append, hentry]
    rfl
  | operation =>
    refine Program.yields_bind fun reads => ?_
    refine Program.yields_bind fun writes => ?_
    exact Program.yields_bind fun _ => Program.yields_done hsame

/-- Several steps add the entries of their results, in order. -/
theorem runSteps_yields (network : Network) (slot : Nat) (inputs : Inputs) (outputs : Outputs)
    (items : List (Step × Nat)) :
    (network.runSteps slot inputs outputs items).Yields fun after =>
      sizesOf after = sizesOf outputs ++ (items.filterMap fun item => item.1.result?).map entryOf := by
  induction items generalizing outputs with
  | nil => exact Program.yields_done (List.append_nil _).symm
  | cons item rest ih =>
    refine (network.runStep_yields slot inputs outputs item).bind fun between hbetween => ?_
    intro site after value hrun
    rw [ih between site after value hrun, hbetween, List.append_assoc, List.filterMap_cons]
    cases item.1.result? <;> rfl

/-- If the names of the results are distinct, a request that yields an answer yields an entry for each result. -/
theorem program_yields (hnames : (network.results.map Binding.name).Nodup) :
    (network.program slot inputs).Yields network.Answers := by
  have hresults : (network.steps.zipIdx.filterMap fun item => item.1.result?) = network.results := by
    have hmap : (network.steps.zipIdx.map Prod.fst).filterMap Step.result? = network.results := by
      rw [List.zipIdx_map_fst]
      rfl
    rw [List.filterMap_map] at hmap
    exact hmap
  refine (network.runSteps_yields slot inputs [] network.steps.zipIdx).bind fun outputs houtputs => ?_
  rw [hresults] at houtputs
  have hentries : sizesOf outputs = network.results.map entryOf := houtputs
  refine Program.yields_bind fun _ => ?_
  refine Program.yields_done ⟨hentries, ?_⟩
  have hfst : outputs.map Prod.fst = network.results.map Binding.name := by
    have hmap := congrArg (List.map Prod.fst) hentries
    unfold sizesOf at hmap
    rw [List.map_map, List.map_map] at hmap
    exact hmap
  rw [hfst]
  exact hnames

variable {site after : Site HostDevice} {lending : Lending}

/-- A request gives back the region that it was served on, and leaves the device steady. -/
theorem serve_steady (network : Network) (lending : Lending) (slot : Nat) (inputs : Inputs)
    (site : Site HostDevice) : site.device.Steady (network.serve lending slot inputs site).2.2.device := by
  unfold serve
  exact (network.program slot inputs).run_steady (site.note (Lending.leasedEvent slot))

/-- A request that is served answers with one entry for each result. -/
theorem serve_answers (hnames : (network.results.map Binding.name).Nodup) (lending : Lending)
    (h : (network.serve lending slot inputs site).1 = .ok outputs) : network.Answers outputs :=
  program_yields hnames (site.note (Lending.leasedEvent slot)) _ outputs (Prod.ext h rfl)

/-- A request on a lease, be it of another network, leaves the device steady. -/
theorem execute_steady (network : Network) (owned : Bool) (slot : Nat) (inputs : Inputs)
    (site : Site HostDevice) : site.device.Steady (network.execute owned slot inputs site).2.device := by
  unfold execute
  split
  · cases hcheck : network.checkInputs inputs with
    | error cause => exact .refl site.device
    | ok _ => exact (network.program slot inputs).run_steady site
  · exact .refl site.device

/-- A request on a lease answers with one entry for each result. -/
theorem execute_answers (hnames : (network.results.map Binding.name).Nodup) {owned : Bool}
    (h : network.execute owned slot inputs site = (.ok outputs, after)) : network.Answers outputs := by
  unfold execute at h
  split at h
  · obtain ⟨_, between, -, hrun⟩ := Act.bind_eq_ok.mp h
    exact program_yields hnames between after outputs hrun
  · cases h

/-- What a request that asks for a region itself leaves behind, where nobody waits. -/
theorem infer_finished (hidle : network.pool.lending.waiting = [])
    (hnames : (network.results.map Binding.name).Nodup) {outcome : Except (Halt PlanError) Outputs}
    (h : network.infer inputs site = (.finished outcome, lending, after)) :
    network.pool.lending.Restored lending ∧ site.device.Steady after.device ∧
      ∀ outputs, outcome = .ok outputs → network.Answers outputs := by
  unfold infer at h
  split at h
  · cases h
    exact ⟨⟨hidle, .refl _⟩, .refl _, fun outputs houtputs => nomatch houtputs⟩
  · split at h
    · next slot taken hacquire =>
      cases h
      refine ⟨Lending.restored_acquire_inl hidle hacquire, serve_steady .., ?_⟩
      intro outputs houtputs
      exact serve_answers hnames taken houtputs
    · cases h

/-- A request that would wait leaves the device, and its pool once it left the queue. -/
theorem infer_waiting (hidle : network.pool.lending.waiting = []) {ticket : Ticket}
    (h : network.infer inputs site = (.waiting ticket, lending, after)) :
    network.pool.lending.Restored (lending.abandon ticket) ∧ site.device.Steady after.device := by
  unfold infer at h
  split at h
  · cases h
  · split at h
    · cases h
    · next hacquire =>
      cases h
      exact ⟨Lending.restored_acquire_inr hidle hacquire, .refl _⟩

/-- A request with a deadline leaves the device and its pool, and its answer is complete. -/
theorem inferWithin_spec (hidle : network.pool.lending.waiting = [])
    (hnames : (network.results.map Binding.name).Nodup) {ms : Nat}
    {outcome : Except (Halt PlanError) (Option Outputs)}
    (h : network.inferWithin inputs ms site = (outcome, lending, after)) :
    network.pool.lending.Restored lending ∧ site.device.Steady after.device ∧
      ∀ outputs, outcome = .ok (some outputs) → network.Answers outputs := by
  unfold inferWithin at h
  split at h
  · cases h
    exact ⟨⟨hidle, .refl _⟩, .refl _, fun outputs houtputs => nomatch houtputs⟩
  · split at h
    · next slot taken hacquire =>
      cases h
      refine ⟨Lending.restored_acquireOrLeave_some hidle hacquire, serve_steady .., ?_⟩
      intro outputs houtputs
      obtain ⟨served, hserved, hsome⟩ := Except.map_eq_ok.mp houtputs
      obtain rfl := Option.some.inj hsome
      exact serve_answers hnames taken hserved
    · next hacquire =>
      cases h
      exact ⟨Lending.restored_acquireOrLeave_none hidle hacquire, .refl _, fun outputs houtputs => nomatch houtputs⟩

variable {graph : Graph} {registry : Registry} {config : PlanConfig}

/-- In a network that was compiled all regions are free, nobody waits, and the names of the results are
distinct. -/
theorem compile_idle (h : compile graph registry config site = (.ok network, after)) :
    network.pool.lending = .ofCount network.pool.size ∧ (network.results.map Binding.name).Nodup := by
  obtain ⟨a, plan, hplans, hsteps, hlending⟩ := compile_planned h
  unfold results
  rw [hsteps]
  exact ⟨hlending, hplans.results⟩

end Network
end MemoryPlan
