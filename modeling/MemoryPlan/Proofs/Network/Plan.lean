import MemoryPlan.Network.Compile
import MemoryPlan.Proofs.Assignment.Queries
import MemoryPlan.Proofs.Pool
import MemoryPlan.Proofs.Transient.Offered
/-!
# What a plan holds

The constants of a plan are exactly the constant buffers of its assignment with their data, and its
transients are exactly the others with their lifespans and sizes. A compiled network has the steps of its
plan, and its pool has their block and their layout.
-/

namespace MemoryPlan

namespace NetworkPlan

variable {graph : Graph} {registry : Registry} {position : Nat} {a : Assignment}

/-- The constants of an assignment are listed with their data. -/
theorem mem_constantItems (ho : a.Orderly graph position) {items : List (BufferId × Bytes)}
    (h : constantItems a = .ok items) {id : BufferId} {data : Bytes} :
    (id, data) ∈ items ↔ a.Keeps id data := by
  obtain ⟨hforward, hback⟩ := Except.mem_of_mapM_eq_ok h
  constructor
  · intro hmem
    obtain ⟨other, -, hother⟩ := hback _ hmem
    obtain ⟨known, hknown, heq⟩ := Except.map_eq_ok.mp hother
    obtain ⟨rfl, rfl⟩ := Prod.mk.inj heq
    exact Assignment.constantData_eq_ok.mp hknown
  · intro hkeeps
    obtain ⟨item, hitem, hfound⟩ := hforward id ((Assignment.mem_constantIds_iff ho).mpr ⟨data, hkeeps⟩)
    obtain ⟨known, hknown, rfl⟩ := Except.map_eq_ok.mp hfound
    obtain rfl : known = data := by
      rw [Assignment.constantData_eq_ok.mpr hkeeps] at hknown
      exact (Except.ok.inj hknown).symm
    exact hitem

/-- A transient buffer has the number, the size and the lifespan of the assigned one. -/
theorem transientOf_eq_ok {id : BufferId} {t : Transient} (h : transientOf a id = .ok t) :
    t.id = id ∧ a.Spans id t.start t.finish ∧ ∃ x, a.buffer? id = some x ∧ x.size = t.size := by
  obtain ⟨⟨start, finish⟩, hspan, h⟩ := Except.bind_eq_ok.mp h
  obtain ⟨size, hsize, h⟩ := Except.bind_eq_ok.mp h
  obtain rfl := Except.pure_eq_ok.mp h
  exact ⟨rfl, Assignment.lifespan_eq_ok.mp hspan, Assignment.bufferSize_eq_ok.mp hsize⟩

/-- What is settled about the plan of a graph. -/
structure Plans (graph : Graph) (registry : Registry) (a : Assignment) (plan : NetworkPlan) : Prop where
  /-- The assignment is that of the graph. -/
  assigned : Assignment.ofGraph graph registry = .ok a
  /-- The steps are those of the nodes. -/
  steps : graph.positioned.mapM (stepOf a registry) = .ok plan.steps
  /-- The constants are packed. -/
  packed : plan.constants.Packed
  /-- The constants are those of the assignment. -/
  constants : ∀ {id : BufferId} {data : Bytes}, a.Keeps id data →
    ∃ c ∈ plan.constants.constants, c.id = id ∧ c.data = data
  /-- Every packed constant is one of the assignment. -/
  known : ∀ c ∈ plan.constants.constants, a.Keeps c.id c.data
  /-- The transients can be laid out. -/
  valid : plan.transients.Valid
  /-- The transients are those of the assignment. -/
  transients : ∀ {id : BufferId} {start finish : Nat} {x : AssignedBuffer}, a.Spans id start finish →
    a.buffer? id = some x → ⟨id, start, finish, x.size⟩ ∈ plan.transients.buffers
  /-- Every transient laid out is one of the assignment. -/
  spans : ∀ t ∈ plan.transients.buffers, a.Spans t.id t.start t.finish
  /-- No two parameters share a name. -/
  parameters : ((plan.steps.filterMap Step.parameter?).map Binding.name).Nodup
  /-- No two results share a name. -/
  results : ((plan.steps.filterMap Step.result?).map Binding.name).Nodup

/-- The assignment of a plan accounts for the graph. -/
theorem Plans.follows {plan : NetworkPlan} (h : Plans graph registry a plan) :
    a.Follows graph graph.nodes.length :=
  Assignment.ofGraph_follows h.assigned

/-- Names without a repeat are distinct, and none of them was seen before. -/
theorem firstRepeat?_eq_none {seen names : List String} (h : firstRepeat? seen names = none) :
    names.Nodup ∧ ∀ name ∈ names, name ∉ seen := by
  induction names generalizing seen with
  | nil => exact ⟨List.nodup_nil, fun _ hname => nomatch hname⟩
  | cons name rest ih =>
    unfold firstRepeat? at h
    split at h
    · cases h
    · next hnew =>
      obtain ⟨hrest, hunseen⟩ := ih h
      constructor
      · refine List.nodup_cons.mpr ⟨?_, hrest⟩
        intro hmem
        exact hunseen name hmem (List.mem_cons_self ..)
      · refine List.forall_mem_cons.mpr ⟨hnew, ?_⟩
        intro other hother hseen
        exact hunseen other hother (List.mem_cons_of_mem _ hseen)

/-- Names that pass the check are distinct. -/
theorem checkNames_eq_ok {role : String} {bindings : List Binding}
    (h : checkNames role bindings = .ok ()) : (bindings.map Binding.name).Nodup := by
  unfold checkNames at h
  split at h
  · next hnone => exact (firstRepeat?_eq_none hnone).1
  · cases h

/-- The packed constants are those of the assignment. -/
theorem packConstants_eq_ok (ho : a.Orderly graph position) {alignment : Nat} {set : ConstantSet}
    (h : (packConstants a alignment).result = .ok set) :
    set.Packed ∧ (∀ {id : BufferId} {data : Bytes}, a.Keeps id data →
      ∃ c ∈ set.constants, c.id = id ∧ c.data = data) ∧ ∀ c ∈ set.constants, a.Keeps c.id c.data := by
  unfold packConstants at h
  obtain ⟨aligned, -, h⟩ := Noted.result_bind_eq_ok.mp h
  obtain ⟨items, hitems, h⟩ := Noted.result_bind_eq_ok.mp h
  obtain ⟨_, -, h⟩ := Noted.result_bind_eq_ok.mp h
  obtain ⟨hpacked, hconstants⟩ := (ConstantSet.packed_empty aligned).addAll h
  have hmem : ∀ {id data}, (id, data) ∈ set.constants.map (fun c => (c.id, c.data)) ↔ a.Keeps id data := by
    intro id data
    rw [hconstants]
    exact mem_constantItems ho hitems
  refine ⟨hpacked, ?_, ?_⟩
  · intro id data hkeeps
    obtain ⟨c, hc, heq⟩ := List.mem_map.mp (hmem.mpr hkeeps)
    obtain ⟨rfl, rfl⟩ := Prod.mk.inj heq
    exact ⟨c, hc, rfl, rfl⟩
  · intro c hc
    exact hmem.mp (List.mem_map_of_mem hc)

/-- The gathered transients are those of the assignment. -/
theorem gatherTransients_eq_ok (ho : a.Orderly graph position) {alignment : Nat} {set : TransientSet}
    (h : (gatherTransients a alignment).result = .ok set) :
    set.Valid ∧ (∀ {id : BufferId} {start finish : Nat} {x : AssignedBuffer}, a.Spans id start finish →
      a.buffer? id = some x → ⟨id, start, finish, x.size⟩ ∈ set.buffers) ∧
      ∀ t ∈ set.buffers, a.Spans t.id t.start t.finish := by
  unfold gatherTransients at h
  obtain ⟨aligned, -, h⟩ := Noted.result_bind_eq_ok.mp h
  obtain ⟨items, hitems, h⟩ := Noted.result_bind_eq_ok.mp h
  obtain ⟨_, -, h⟩ := Noted.result_bind_eq_ok.mp h
  obtain ⟨hvalid, hset⟩ := (TransientSet.valid_empty aligned).addAll h
  have hbuffers : set.buffers = items := congrArg TransientSet.buffers hset
  obtain ⟨hforward, hback⟩ := Except.mem_of_mapM_eq_ok hitems
  refine ⟨hvalid, ?_, ?_⟩
  · intro id start finish x hspans hx
    have hlisted : id ∈ a.transientIds := (Assignment.mem_transientIds_iff ho).mpr ⟨_, _, hspans⟩
    obtain ⟨t, ht, hfound⟩ := hforward id hlisted
    obtain ⟨hid, hown, y, hy, hsize⟩ := transientOf_eq_ok hfound
    obtain ⟨tid, tstart, tfinish, tsize⟩ := t
    dsimp only at hid hown hy hsize
    subst hid
    obtain ⟨rfl, rfl⟩ := hown.unique hspans
    rw [hx] at hy
    obtain rfl := Option.some.inj hy
    rw [hbuffers, hsize]
    exact ht
  · intro t ht
    rw [hbuffers] at ht
    obtain ⟨id, -, hfound⟩ := hback t ht
    obtain ⟨rfl, hown, -⟩ := transientOf_eq_ok hfound
    exact hown

/-- A plan that is made is one of the assigned graph. -/
theorem make_eq_ok {config : PlanConfig} {ordinal : Int} {label : String} {plan : NetworkPlan}
    (h : (make graph registry config ordinal label).result = .ok plan) :
    ∃ a, Plans graph registry a plan := by
  unfold make at h
  obtain ⟨_, -, h⟩ := Noted.result_bind_eq_ok.mp h
  obtain ⟨_, -, h⟩ := Noted.result_bind_eq_ok.mp h
  obtain ⟨_, -, h⟩ := Noted.result_bind_eq_ok.mp h
  obtain ⟨a, hassign, h⟩ := Noted.result_bind_eq_ok.mp h
  obtain ⟨steps, hsteps, h⟩ := Noted.result_bind_eq_ok.mp h
  obtain ⟨constants, hconstants, h⟩ := Noted.result_bind_eq_ok.mp h
  obtain ⟨transients, htransients, h⟩ := Noted.result_bind_eq_ok.mp h
  obtain ⟨_, -, h⟩ := Noted.result_bind_eq_ok.mp h
  obtain rfl := Except.ok.inj h
  rw [Assignment.noted_result] at hassign
  have hfollows := Assignment.ofGraph_follows hassign
  obtain ⟨all, hall, hsteps⟩ := Except.bind_eq_ok.mp hsteps
  obtain ⟨_, hparameters, hsteps⟩ := Except.bind_eq_ok.mp hsteps
  obtain ⟨_, hresults, hsteps⟩ := Except.bind_eq_ok.mp hsteps
  obtain rfl := Except.pure_eq_ok.mp hsteps
  obtain ⟨hpacked, hkeeps, hknown⟩ := packConstants_eq_ok hfollows.orderly hconstants
  obtain ⟨hvalid, hlaid, hspans⟩ := gatherTransients_eq_ok hfollows.orderly htransients
  exact ⟨a, hassign, hall, hpacked, hkeeps, hknown, hvalid, hlaid, hspans, checkNames_eq_ok hparameters,
    checkNames_eq_ok hresults⟩

end NetworkPlan

namespace Network

variable {graph : Graph} {registry : Registry} {config : PlanConfig} {site after : Site HostDevice}
  {network : Network}

/-- A compiled network on the device that its compilation leaves. -/
structure Made (graph : Graph) (registry : Registry) (a : Assignment) (plan : NetworkPlan)
    (before : HostDevice) (network : Network) (after : HostDevice) : Prop where
  /-- The plan is one of the graph. -/
  plans : plan.Plans graph registry a
  /-- The steps are those of the plan. -/
  steps : network.steps = plan.steps
  /-- The constants have the offsets of the plan. -/
  constants : network.pool.constants.layout = plan.constants.layout
  /-- The transients have the offsets of the plan. -/
  layout : network.pool.layout = plan.transients.layout
  /-- Nobody uses or waits for a region. -/
  lending : network.pool.lending = .ofCount network.pool.size
  /-- Each region has the size that the layout needs. -/
  sizes : ∀ r ∈ network.pool.regions, r.size = network.pool.layout.size
  /-- The block and the regions are the new allocations. -/
  grown : HostDevice.Grown before after network.pool.places
  /-- There is memory for each constant that has bytes. -/
  covers : ∀ c ∈ plan.constants.constants, 0 < c.data.length →
    ∃ p ∈ network.pool.constants.places, p.Covers (network.pool.constants.base + c.offset) c.data.length
  /-- Each constant stands in the block. -/
  bytes : ∀ c ∈ plan.constants.constants,
    after.memory.bytes (network.pool.constants.base + c.offset) c.data.length = c.data

/-- A report leaves the device. -/
theorem ofNoted_eq_ok {δ α : Type} {site after : Site δ} {noted : Noted PlanError α} {value : α}
    (h : Act.ofNoted noted site = (.ok value, after)) :
    noted.result = .ok value ∧ after.device = site.device := by
  unfold Act.ofNoted at h
  obtain ⟨_, between, hlog, h⟩ := Act.bind_eq_ok.mp h
  obtain ⟨hresult, rfl⟩ := Act.ofExcept_eq_ok.mp h
  cases hlog
  exact ⟨hresult, rfl⟩

/-- On every device, a network that could be compiled has the steps of a plan, and all its regions are free. -/
theorem compile_planned {δ : Type} [Device δ] {site after : Site δ}
    (h : compile graph registry config site = (.ok network, after)) :
    ∃ a plan, NetworkPlan.Plans graph registry a plan ∧ network.steps = plan.steps ∧
      network.pool.lending = .ofCount network.pool.size := by
  unfold compile within at h
  dsimp only at h
  obtain ⟨hbuild, -⟩ := Prod.mk.inj h
  obtain ⟨_, s₀, -, h⟩ := Act.bind_eq_ok.mp (Prod.ext hbuild rfl)
  obtain ⟨plan, s₁, hplan, h⟩ := Act.bind_eq_ok.mp h
  obtain ⟨_, s₂, -, h⟩ := Act.bind_eq_ok.mp h
  obtain ⟨_, s₃, -, h⟩ := Act.bind_eq_ok.mp h
  obtain ⟨_, s₄, -, h⟩ := Act.bind_eq_ok.mp h
  obtain ⟨pool, s₅, hpool, h⟩ := Act.bind_eq_ok.mp h
  obtain ⟨_, s₆, -, h⟩ := Act.bind_eq_ok.mp h
  obtain ⟨rfl, -⟩ := Act.pure_eq_ok.mp h
  obtain ⟨a, hplans⟩ := NetworkPlan.make_eq_ok (ofNoted_eq_ok hplan).1
  exact ⟨a, plan, hplans, rfl, RegionPool.create_lending hpool⟩

/-- A network that is built is made from a plan of its graph. -/
theorem build_eq_ok (hs : site.device.Sound) (h : build graph registry config site = (.ok network, after)) :
    ∃ a plan, Made graph registry a plan site.device network after.device := by
  unfold build at h
  obtain ⟨device, s₀, hdevice, h⟩ := Act.bind_eq_ok.mp h
  obtain ⟨plan, s₁, hplan, h⟩ := Act.bind_eq_ok.mp h
  obtain ⟨info, s₂, hinfo, h⟩ := Act.bind_eq_ok.mp h
  obtain ⟨streams, s₃, hstreams, h⟩ := Act.bind_eq_ok.mp h
  obtain ⟨block, s₄, hblock, h⟩ := Act.bind_eq_ok.mp h
  obtain ⟨pool, s₅, hpool, h⟩ := Act.bind_eq_ok.mp h
  obtain ⟨_, s₆, hnote, h⟩ := Act.bind_eq_ok.mp h
  obtain ⟨rfl, rfl⟩ := Act.pure_eq_ok.mp h
  obtain ⟨hmade, hd₁⟩ := ofNoted_eq_ok hplan
  obtain ⟨-, hd₃⟩ := ofNoted_eq_ok hstreams
  have hd₀ : s₀.device = site.device := by
    cases hdevice
    rfl
  have hd₂ : s₂.device = s₁.device := by
    have hquery := Act.mapError_eq_ok.mp hinfo
    cases hquery
    rfl
  have hd₆ : s₆.device = s₅.device := by
    cases hnote
    rfl
  have hsame : s₃.device = site.device := by
    rw [hd₃, hd₂, hd₁, hd₀]
  obtain ⟨a, hplans⟩ := NetworkPlan.make_eq_ok hmade
  have hs₃ : s₃.device.Sound := by
    rw [hsame]
    exact hs
  have hup := ConstantBlock.upload_eq_ok hplans.packed hs₃ hblock
  obtain ⟨hconstants, hlayout, hsizes, hregions⟩ := RegionPool.create_eq_ok hup.grown.sound hpool
  have hcovers : ∀ c ∈ plan.constants.constants, 0 < c.data.length →
      ∃ p ∈ block.places, p.Covers (block.base + c.offset) c.data.length := by
    intro c hc hpos
    obtain ⟨buffer, hbuffer, hcover⟩ := hup.buffer c hc hpos
    refine ⟨buffer.place, ?_, hcover⟩
    unfold ConstantBlock.places
    rw [hbuffer]
    exact List.mem_singleton_self _
  refine ⟨a, plan, ⟨hplans, rfl, ?_, hlayout, RegionPool.create_lending hpool, ?_, ?_, ?_, ?_⟩⟩
  · change pool.constants.layout = plan.constants.layout
    rw [hconstants, hup.layout]
  · change ∀ r ∈ pool.regions, r.size = pool.layout.size
    rw [hlayout]
    exact hsizes
  · change HostDevice.Grown site.device s₆.device
      (pool.constants.places ++ pool.regions.map DeviceBuffer.place)
    rw [hd₆, hconstants, ← hsame]
    exact hup.grown.trans hregions
  · change ∀ c ∈ plan.constants.constants, 0 < c.data.length →
      ∃ p ∈ pool.constants.places, p.Covers (pool.constants.base + c.offset) c.data.length
    rw [hconstants]
    exact hcovers
  · intro c hc
    change s₆.device.memory.bytes (pool.constants.base + c.offset) c.data.length = c.data
    rw [hd₆, hconstants]
    refine Eq.trans ?_ (hup.bytes c hc)
    apply Memory.bytes_congr
    intro x hle hlt
    obtain ⟨p, hp, hcover⟩ := hcovers c hc (by omega)
    have hmem : p ∈ s₄.device.extents := by
      rw [hup.grown.extents]
      exact List.mem_append_right _ hp
    exact hregions.memory p hmem x ⟨Nat.le_trans hcover.1 hle, Nat.lt_of_lt_of_le hlt hcover.2⟩

/-- A network that could be compiled was planned, and its memory is on the device. -/
theorem compile_eq_ok (hs : site.device.Sound)
    (h : compile graph registry config site = (.ok network, after)) :
    ∃ a plan, Made graph registry a plan site.device network after.device := by
  unfold compile within at h
  dsimp only at h
  obtain ⟨hbuild, hafter⟩ := Prod.mk.inj h
  let entered : Site HostDevice := { site with journal := site.journal.push (.enter graph.name) }
  have hpair : build graph registry config entered =
      (.ok network, (build graph registry config entered).2) := Prod.ext hbuild rfl
  have hentered : entered.device.Sound := hs
  obtain ⟨a, plan, hmade⟩ := build_eq_ok hentered hpair
  refine ⟨a, plan, ?_⟩
  rw [← hafter]
  exact hmade

end Network
end MemoryPlan
