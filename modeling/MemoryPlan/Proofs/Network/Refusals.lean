import Mathlib.Data.List.Duplicate
import MemoryPlan.Proofs.Assignment.Refusals
import MemoryPlan.Proofs.Constant.Stored
import MemoryPlan.Proofs.Network.Atomicity
import MemoryPlan.Proofs.Network.Steps
/-!
# Refused compilations

Each stage of a compilation checks again what an earlier one settled, and these checks never fail. A compilation
on a host device is refused for a reason that lies in what was given (`Network.Refuses`): the configuration, the
graph, the registry and its factories, the size of the words, or the free memory. What an assignment guarantees to
the stages behind it (`NetworkPlan.Guarantees`) leaves no other reason.
-/

namespace MemoryPlan

namespace TransientSet

variable {set : TransientSet} {t : Transient} {e : PlanError}

/-- The rounded sizes with one of so many bytes more leave one alignment of room in the words. -/
def HasRoom (set : TransientSet) (size : Nat) : Prop :=
  size + set.alignment.bytes ≤ Word.limit ∧
    set.reserved + set.alignment.up size + set.alignment.bytes < Word.limit

/-- A new buffer whose lifespan is not inverted is refused only for want of room. -/
theorem add_eq_error_of_new (hle : t.start ≤ t.finish) (hnew : ∀ other ∈ set.buffers, other.id ≠ t.id)
    (h : set.add t = .error e) :
    e = .invalidAllocation (.transientOverflow t.id t.size set.reserved) ∧ ¬set.HasRoom t.size := by
  have hroom : ¬set.HasRoom t.size := by
    rintro ⟨hsize, hreserved⟩
    cases h.symm.trans (add_eq_ok.mpr ⟨hle, hnew, hsize, hreserved, rfl⟩)
  refine ⟨?_, hroom⟩
  unfold add at h
  split at h
  · next hlt => exact absurd hle (Nat.not_le.mpr hlt)
  · split at h
    · next hany =>
      obtain ⟨other, hother, hid⟩ := List.any_eq_true.mp hany
      exact absurd (of_decide_eq_true hid) (hnew other hother)
    · split at h
      · exact (Except.error.inj h).symm
      · cases h

/-- Buffers of distinct ids, with no lifespan inverted, are refused only for want of room. -/
theorem addAll_eq_error {alignment : Alignment} {items : List Transient}
    (hnodup : (items.map Transient.id).Nodup) (hordered : ∀ t ∈ items, t.start ≤ t.finish)
    (h : (addAll { alignment } items).result = .error e) :
    ∃ before t after set, items = before ++ t :: after ∧ (addAll { alignment } before).result = .ok set ∧
      e = .invalidAllocation (.transientOverflow t.id t.size set.reserved) ∧ ¬set.HasRoom t.size := by
  obtain ⟨before, t, after, set, rfl, hset, hfault⟩ := Progress.exists_of_result_walk_eq_error h
  have hbuffers : set.buffers = before := congrArg buffers ((valid_empty alignment).addAll hset).2
  rw [List.map_append, List.map_cons, List.nodup_append'] at hnodup
  obtain ⟨hcause, hroom⟩ := add_eq_error_of_new (hordered t (by simp)) (by
    rw [hbuffers]
    intro other hother hid
    exact hnodup.2.2 (List.mem_map_of_mem hother) (by rw [hid]; exact List.mem_cons_self ..)) hfault
  exact ⟨before, t, after, set, rfl, hset, hcause, hroom⟩

end TransientSet

namespace ConstantSet

variable {e : PlanError}

/-- Constants of distinct ids are refused only if one fits nowhere behind the others. -/
theorem addAll_eq_error {alignment : Alignment} {items : List (BufferId × Bytes)}
    (hnodup : (items.map Prod.fst).Nodup) (h : (addAll { alignment } items).result = .error e) :
    ∃ before id data after set, items = before ++ (id, data) :: after ∧
      (addAll { alignment } before).result = .ok set ∧
      e = .invalidAllocation (.constantOverflow id data.length set.size) ∧ ∀ offset, ¬set.Fits data.length offset := by
  obtain ⟨before, ⟨id, data⟩, after, set, rfl, hset, hfault⟩ := Progress.exists_of_result_walk_eq_error h
  have hconstants := ((packed_empty alignment).addAll hset).2
  rw [List.map_append, List.map_cons, List.nodup_append'] at hnodup
  have hnew : ∀ c ∈ set.constants, c.id ≠ id := by
    intro c hc hid
    have hmem : (c.id, c.data) ∈ before := by
      rw [← List.nil_append before, ← List.map_nil, ← hconstants]
      exact List.mem_map_of_mem hc
    exact hnodup.2.2 (List.mem_map_of_mem hmem) (by rw [hid]; exact List.mem_cons_self ..)
  cases add_eq_error.mp hfault with
  | duplicate hknown =>
    obtain ⟨c, hc, hid⟩ := hknown
    exact absurd hid (hnew c hc)
  | overflow _ hfull => exact ⟨before, id, data, after, set, rfl, hset, rfl, hfull⟩

end ConstantSet

namespace NetworkPlan

variable {graph : Graph} {registry : Registry} {config : PlanConfig} {a : Assignment} {node : Node}
  {position : Nat} {buffers : OperationBuffers} {e : PlanError}

/-- What the assignment of a graph guarantees to the stages behind it. -/
structure Guarantees (graph : Graph) (registry : Registry) (a : Assignment) : Prop where
  /-- Each node has buffers, and what a request does there has its buffer. -/
  roles : ∀ item ∈ graph.positioned, ∃ buffers role,
    a.nodeBuffers? item.2 = some buffers ∧ roleOf a item.1 item.2 buffers = .ok role
  /-- Each node has a factory. -/
  registered : ∀ node ∈ graph.nodes, ∃ factory, registry.factory? node.kind.typeName = some factory
  /-- The buffers listed as constant have data, and none is listed twice. -/
  constants : ∃ items, constantItems a = .ok items ∧ (items.map Prod.fst).Nodup
  /-- The other buffers have lifespans and sizes, none is listed twice, and no lifespan is inverted. -/
  transients : ∃ items, a.transientIds.mapM (transientOf a) = .ok items ∧ (items.map Transient.id).Nodup ∧
    ∀ t ∈ items, t.start ≤ t.finish

/-- A binding whose tensor has a buffer has this buffer. -/
theorem exists_bindingOf (ho : a.Orderly graph graph.nodes.length) {tensors : List TensorId} {ids : List BufferId}
    (hids : List.Forall₂ (fun t id => a.bufferOf? t = some id) tensors ids) (hone : tensors.length = 1)
    (name : String) (position : Nat) : ∃ binding, bindingOf a name position ids = .ok binding := by
  obtain ⟨t, rfl⟩ := List.length_eq_one_iff.mp hone
  obtain ⟨id, rest, hbuffer, -, rfl⟩ := List.forall₂_cons_left_iff.mp hids
  obtain ⟨x, hx, -⟩ := ho.tensors hbuffer
  exact ⟨_, Except.map_eq_ok.mpr ⟨x.size, Assignment.bufferSize_eq_ok.mpr ⟨x, hx, rfl⟩, rfl⟩⟩

/-- What a request does at a node has its buffer. -/
theorem exists_roleOf (ho : a.Orderly graph graph.nodes.length) (h : a.Accounts graph position node buffers) :
    ∃ role, roleOf a node position buffers = .ok role := by
  unfold roleOf
  split
  · next hkind =>
    have hone := (Graph.lengths_of_arity h.arity (by rw [hkind]; rfl)).2
    obtain ⟨binding, hbinding⟩ := exists_bindingOf ho h.outputs hone node.name position
    exact ⟨_, Except.map_eq_ok.mpr ⟨binding, hbinding, rfl⟩⟩
  · next hkind =>
    have hone := (Graph.lengths_of_arity h.arity (by rw [hkind]; rfl)).1
    obtain ⟨binding, hbinding⟩ := exists_bindingOf ho h.inputs hone node.name position
    exact ⟨_, Except.map_eq_ok.mpr ⟨binding, hbinding, rfl⟩⟩
  · exact ⟨_, rfl⟩

/-- An assigned graph has all that the later steps ask for. -/
theorem guarantees (h : Assignment.ofGraph graph registry = .ok a) : Guarantees graph registry a := by
  have hfollows := Assignment.ofGraph_follows h
  have ho := hfollows.orderly
  constructor
  case roles =>
    rintro ⟨node, position⟩ hitem
    obtain ⟨i, hi, hself⟩ := List.getElem_of_mem hitem
    obtain ⟨hnode, rfl⟩ := Graph.getElem?_positioned.mp (List.getElem?_eq_some_iff.mpr ⟨hi, hself⟩)
    obtain ⟨hlt, -⟩ := List.getElem?_eq_some_iff.mp hnode
    obtain ⟨buffers, hbuffers, haccounts⟩ := hfollows.accounts hlt hnode
    obtain ⟨role, hrole⟩ := exists_roleOf ho haccounts
    exact ⟨buffers, role, hbuffers, hrole⟩
  case registered => exact fun node hnode => Assignment.ofGraph_registered h hnode
  case constants =>
    have hdata : ∀ id ∈ a.constantIds, ∃ item, (a.constantData id).map (fun data => (id, data)) = .ok item := by
      intro id hid
      obtain ⟨data, hkeeps⟩ := (Assignment.mem_constantIds_iff ho).mp hid
      exact ⟨_, Except.map_eq_ok.mpr ⟨data, Assignment.constantData_eq_ok.mpr hkeeps, rfl⟩⟩
    obtain ⟨items, hitems⟩ := Except.exists_mapM_eq_ok hdata
    refine ⟨items, hitems, ?_⟩
    have hids : items.map Prod.fst = a.constantIds := by
      refine Except.map_of_mapM_eq_ok ?_ hitems
      intro id item hitem
      obtain ⟨data, -, rfl⟩ := Except.map_eq_ok.mp hitem
      rfl
    rw [hids]
    exact ho.nodup_ids _
  case transients =>
    have hspans : ∀ id ∈ a.transientIds, ∃ t, transientOf a id = .ok t := by
      intro id hid
      obtain ⟨start, finish, x, hx, hcontent⟩ := (Assignment.mem_transientIds_iff ho).mp hid
      refine ⟨⟨id, start, finish, x.size⟩, Except.bind_eq_ok.mpr ⟨(start, finish), ?_, ?_⟩⟩
      · exact Assignment.lifespan_eq_ok.mpr ⟨x, hx, hcontent⟩
      · exact Except.bind_eq_ok.mpr ⟨x.size, Assignment.bufferSize_eq_ok.mpr ⟨x, hx, rfl⟩, rfl⟩
    obtain ⟨items, hitems⟩ := Except.exists_mapM_eq_ok hspans
    refine ⟨items, hitems, ?_, ?_⟩
    · rw [Except.map_of_mapM_eq_ok (fun id t ht => (transientOf_eq_ok ht).1) hitems]
      exact ho.nodup_ids _
    · intro t ht
      obtain ⟨id, -, hfound⟩ := (Except.mem_of_mapM_eq_ok hitems).2 t ht
      exact (ho.spans (transientOf_eq_ok hfound).2.1).2.1

/-- Why a graph whose buffers are assigned gets no steps. -/
inductive StepRefuses (graph : Graph) (registry : Registry) (a : Assignment) : PlanError → Prop where
  /-- A factory refuses its node. -/
  | factory {node : Node} {position : Nat} {buffers : OperationBuffers} {factory : Factory} {e : PlanError}
      (hnode : (node, position) ∈ graph.positioned) (hbuffers : a.nodeBuffers? position = some buffers)
      (hfactory : registry.factory? node.kind.typeName = some factory) (h : factory node buffers = .error e) :
      StepRefuses graph registry a e
  /-- Two parameters share a name. -/
  | parameters {name : String} (h : List.Duplicate name (graph.parameters.map fun item => item.1.name)) :
      StepRefuses graph registry a (.invalidGraph (.duplicateName "parameter" name))
  /-- Two results share a name. -/
  | results {name : String} (h : List.Duplicate name (graph.results.map fun item => item.1.name)) :
      StepRefuses graph registry a (.invalidGraph (.duplicateName "result" name))

/-- A repeated name was seen before, or occurs twice. -/
theorem firstRepeat?_eq_some {seen names : List String} {name : String} (h : firstRepeat? seen names = some name) :
    (name ∈ seen ∧ name ∈ names) ∨ List.Duplicate name names := by
  induction names generalizing seen with
  | nil => cases h
  | cons first rest ih =>
    unfold firstRepeat? at h
    split at h
    · next hseen =>
      rw [← Option.some.inj h]
      exact Or.inl ⟨hseen, List.mem_cons_self ..⟩
    · obtain ⟨hseen, hrest⟩ | htwice := ih h
      · rcases List.mem_cons.mp hseen with rfl | hseen
        · exact Or.inr hrest.duplicate_cons_self
        · exact Or.inl ⟨hseen, List.mem_cons_of_mem _ hrest⟩
      · exact Or.inr (htwice.duplicate_cons first)

/-- Names that do not pass the check contain one twice. -/
theorem checkNames_eq_error {role : String} {bindings : List Binding} (h : checkNames role bindings = .error e) :
    ∃ name, e = .invalidGraph (.duplicateName role name) ∧ List.Duplicate name (bindings.map Binding.name) := by
  unfold checkNames at h
  split at h
  · cases h
  · next name hname =>
    obtain ⟨hnone, -⟩ | htwice := firstRepeat?_eq_some hname
    · cases hnone
    · exact ⟨name, (Except.error.inj h).symm, htwice⟩

/-- The bindings of the steps have the names of the nodes of that kind, in order. -/
theorem names_eq {kind : NodeKind} {binding? : Step → Option Binding}
    (hbinding : ∀ (node : Node) (position : Nat) (step : Step), stepOf a registry (node, position) = .ok step →
      if node.kind = kind then ∃ binding, binding? step = some binding ∧ node.name = binding.name
      else binding? step = none)
    {items : List (Node × Nat)} {steps : List Step} (h : items.mapM (stepOf a registry) = .ok steps) :
    (steps.filterMap binding?).map Binding.name =
      (items.filter fun item => item.1.kind == kind).map fun item => item.1.name := by
  have hall : List.Forall₂ (fun item binding => item.1.name = binding.name)
      (items.filter fun item => item.1.kind == kind) (steps.filterMap binding?) :=
    forall₂_bindings (fun item _ step => hbinding item.1 item.2 step) h
  have hnames := List.forall₂_map_left_iff.mpr (List.forall₂_map_right_iff.mpr hall)
  rw [List.forall₂_eq_eq_eq] at hnames
  exact hnames.symm

/-- The step of a parameter, and of no other node, has a binding under the name of the node. -/
theorem parameter?_eq {step : Step} (h : stepOf a registry (node, position) = .ok step) :
    if node.kind = .parameter then ∃ binding, step.parameter? = some binding ∧ node.name = binding.name
    else step.parameter? = none := by
  have hparameter := parameter?_of_stepOf h
  by_cases hkind : node.kind = .parameter
  · rw [if_pos hkind] at hparameter ⊢
    obtain ⟨buffers, id, rest, x, -, -, -, hsome⟩ := hparameter
    exact ⟨_, hsome, rfl⟩
  · rw [if_neg hkind] at hparameter ⊢
    exact hparameter

/-- The step of a result, and of no other node, has a binding under the name of the node. -/
theorem result?_eq {step : Step} (h : stepOf a registry (node, position) = .ok step) :
    if node.kind = .result then ∃ binding, step.result? = some binding ∧ node.name = binding.name
    else step.result? = none := by
  obtain ⟨buffers, -, hrole, -⟩ := stepOf_eq_ok h
  unfold Step.result?
  obtain ⟨hkind, id, rest, x, -, -, hself⟩ | ⟨hkind, id, rest, x, -, -, hself⟩ | ⟨-, hkind, hself⟩ :=
    roleOf_eq_ok hrole <;> rw [hself] <;> simp [hkind]

/-- The steps of a graph are refused only by a factory, or for a repeated name. -/
theorem stepsOf_refuses (hg : Guarantees graph registry a) (h : stepsOf a registry graph = .error e) :
    StepRefuses graph registry a e := by
  unfold stepsOf at h
  obtain hstep | ⟨steps, hsteps, h⟩ := Except.bind_eq_error.mp h
  · obtain ⟨⟨node, position⟩, hitem, hfault⟩ := Except.exists_of_mapM_eq_error hstep
    obtain ⟨buffers, role, hbuffers, hrole⟩ := hg.roles _ hitem
    obtain ⟨factory, hfactory⟩ := hg.registered node (List.fst_mem_of_mem_zipIdx hitem)
    unfold stepOf at hfault
    rw [hbuffers] at hfault
    dsimp only at hfault hrole
    rw [hrole] at hfault
    obtain hnone | ⟨_, -, hfault⟩ := Except.bind_eq_error.mp hfault
    · cases hnone
    · obtain hcreate | ⟨operation, -, hfault⟩ := Except.bind_eq_error.mp hfault
      · unfold Registry.create at hcreate
        rw [hfactory] at hcreate
        exact .factory hitem hbuffers hfactory hcreate
      · cases hfault
  · obtain hnames | ⟨_, -, h⟩ := Except.bind_eq_error.mp h
    · obtain ⟨name, rfl, htwice⟩ := checkNames_eq_error hnames
      rw [names_eq (fun _ _ _ => parameter?_eq) hsteps] at htwice
      exact .parameters htwice
    · obtain hnames | ⟨_, -, h⟩ := Except.bind_eq_error.mp h
      · obtain ⟨name, rfl, htwice⟩ := checkNames_eq_error hnames
        rw [names_eq (fun _ _ _ => result?_eq) hsteps] at htwice
        exact .results htwice
      · cases h

end NetworkPlan

namespace Network

open NetworkPlan HostDevice

variable {graph : Graph} {registry : Registry} {config : PlanConfig} {device : HostDevice} {a : Assignment}
  {e : PlanError} {site : Site HostDevice}

/-- Why a graph is not compiled for a host device. -/
inductive Refuses (graph : Graph) (registry : Registry) (config : PlanConfig) (device : HostDevice) :
    PlanError → Prop where
  /-- The device of the configuration is negative. -/
  | negativeDevice (h : config.deviceId < 0) :
      Refuses graph registry config device (.invalidConfiguration (.negativeDevice config.deviceId))
  /-- The alignment of the configuration is not a power of two. -/
  | alignment (h : Word.isPowerOfTwo config.alignment = false) :
      Refuses graph registry config device (.invalidConfiguration (.alignment config.alignment))
  /-- The configuration names another device. -/
  | otherDevice (h : device.ordinal ≠ config.deviceId) :
      Refuses graph registry config device
        (.invalidConfiguration (.otherDevice config.deviceId device.ordinal device.label))
  /-- The graph is not a valid order of nodes. -/
  | order {cause : GraphCause} (h : graph.validate = .error (.invalidGraph cause)) :
      Refuses graph registry config device (.invalidGraph cause)
  /-- A node gets no buffers. -/
  | node {node : Node} {e : PlanError} (hnode : node ∈ graph.nodes)
      (h : Assignment.NodeRefuses graph registry node e) : Refuses graph registry config device e
  /-- A factory refuses its node, or a name is repeated. -/
  | steps {a : Assignment} {e : PlanError} (ha : Assignment.ofGraph graph registry = .ok a)
      (h : StepRefuses graph registry a e) : Refuses graph registry config device e
  /-- A constant ends beyond the words. -/
  | constants {a : Assignment} {aligned : Alignment} {before after : List (BufferId × Bytes)} {id : BufferId}
      {data : Bytes} {set : ConstantSet} (ha : Assignment.ofGraph graph registry = .ok a)
      (haligned : Alignment.ofBytes? config.alignment = .ok aligned)
      (hitems : constantItems a = .ok (before ++ (id, data) :: after))
      (hset : (ConstantSet.addAll { alignment := aligned } before).result = .ok set)
      (h : ∀ offset, ¬set.Fits data.length offset) :
      Refuses graph registry config device (.invalidAllocation (.constantOverflow id data.length set.size))
  /-- The sizes of the transient buffers leave the words. -/
  | transients {a : Assignment} {aligned : Alignment} {before after : List Transient} {t : Transient}
      {set : TransientSet} (ha : Assignment.ofGraph graph registry = .ok a)
      (haligned : Alignment.ofBytes? config.alignment = .ok aligned)
      (hitems : a.transientIds.mapM (transientOf a) = .ok (before ++ t :: after))
      (hset : (TransientSet.addAll { alignment := aligned } before).result = .ok set) (h : ¬set.HasRoom t.size) :
      Refuses graph registry config device (.invalidAllocation (.transientOverflow t.id t.size set.reserved))
  /-- A region has no bytes. -/
  | emptyRegion {plan : NetworkPlan}
      (hplan : (NetworkPlan.make graph registry config device.ordinal device.label).result = .ok plan)
      (h : plan.transients.layout.size = 0) : Refuses graph registry config device .modelNotLoaded
  /-- Not even one region fits beside the block. -/
  | noRoom {plan : NetworkPlan}
      (hplan : (NetworkPlan.make graph registry config device.ordinal device.label).result = .ok plan)
      (h : device.freeBytes < plan.constants.size + plan.transients.layout.size) :
      Refuses graph registry config device
        (.insufficientMemory device.freeBytes plan.constants.size plan.transients.layout.size)

/-- Settings are refused for a cause of the settings. -/
theorem validate_refuses (h : config.validate = .error e) : Refuses graph registry config device e := by
  unfold PlanConfig.validate at h
  split at h
  · next hnegative =>
    rw [← Except.error.inj h]
    exact .negativeDevice hnegative
  · split at h
    · cases h
    · next hpower =>
      rw [← Except.error.inj h]
      exact .alignment (by simpa using hpower)

/-- The alignment of a valid configuration is one. -/
theorem exists_alignment (h : config.validate = .ok ()) (hword : config.alignment < Word.limit) :
    ∃ aligned, Alignment.ofBytes? config.alignment = .ok aligned := by
  unfold PlanConfig.validate at h
  split at h
  · cases h
  · split at h
    · next hpower => exact ⟨⟨config.alignment, hpower, hword⟩, dif_pos ⟨hpower, hword⟩⟩
    · cases h

/-- Packing the constants fails only where one of them no longer fits beside the others. -/
theorem packConstants_refuses (ha : Assignment.ofGraph graph registry = .ok a) {aligned : Alignment}
    (haligned : Alignment.ofBytes? config.alignment = .ok aligned)
    (h : (packConstants a config.alignment).result = .error e) : Refuses graph registry config device e := by
  obtain ⟨items, hitems, hnodup⟩ := (guarantees ha).constants
  unfold packConstants at h
  simp only [Noted.result_bind, Noted.result_ofExcept, Noted.result_noteAll, haligned, hitems] at h
  obtain ⟨before, id, data, after, set, rfl, hset, rfl, hfull⟩ := ConstantSet.addAll_eq_error hnodup h
  exact .constants ha haligned hitems hset hfull

/-- Laying out the transient buffers fails only where one of them no longer fits beside the others.
-/
theorem gatherTransients_refuses (ha : Assignment.ofGraph graph registry = .ok a) {aligned : Alignment}
    (haligned : Alignment.ofBytes? config.alignment = .ok aligned)
    (h : (gatherTransients a config.alignment).result = .error e) : Refuses graph registry config device e := by
  obtain ⟨items, hitems, hnodup, hordered⟩ := (guarantees ha).transients
  unfold gatherTransients at h
  simp only [Noted.result_bind, Noted.result_ofExcept, Noted.result_noteAll, haligned, hitems] at h
  obtain ⟨before, t, after, set, rfl, hset, rfl, hroom⟩ := TransientSet.addAll_eq_error hnodup hordered h
  exact .transients ha haligned hitems hset hroom

/-- A plan fails only for one of these reasons. -/
theorem make_refuses (hword : config.alignment < Word.limit)
    (h : (NetworkPlan.make graph registry config device.ordinal device.label).result = .error e) :
    Refuses graph registry config device e := by
  unfold NetworkPlan.make at h
  obtain hvalid | ⟨_, hvalid, h⟩ := Noted.result_bind_eq_error.mp h
  · exact validate_refuses hvalid
  obtain ⟨aligned, haligned⟩ := exists_alignment hvalid hword
  obtain hdevice | ⟨_, -, h⟩ := Noted.result_bind_eq_error.mp h
  · simp only [Noted.result_ofExcept, checkDevice] at hdevice
    split at hdevice
    · cases hdevice
    · next hother =>
      rw [← Except.error.inj hdevice]
      exact .otherDevice hother
  obtain hnote | ⟨_, -, h⟩ := Noted.result_bind_eq_error.mp h
  · cases hnote
  obtain hassign | ⟨a, ha, h⟩ := Noted.result_bind_eq_error.mp h
  · rw [Assignment.noted_result] at hassign
    obtain ⟨cause, rfl, hinvalid⟩ | ⟨node, hnode, hrefuses⟩ := Assignment.ofGraph_refuses hassign
    · exact .order hinvalid
    · exact .node hnode hrefuses
  rw [Assignment.noted_result] at ha
  obtain hsteps | ⟨_, -, h⟩ := Noted.result_bind_eq_error.mp h
  · exact .steps ha (stepsOf_refuses (guarantees ha) hsteps)
  obtain hconstants | ⟨_, -, h⟩ := Noted.result_bind_eq_error.mp h
  · exact packConstants_refuses ha haligned hconstants
  obtain htransients | ⟨_, -, h⟩ := Noted.result_bind_eq_error.mp h
  · exact gatherTransients_refuses ha haligned htransients
  obtain hnote | ⟨_, -, h⟩ := Noted.result_bind_eq_error.mp h
  · cases hnote
  · cases h

/-- A budget fails only without bytes in a region or without room for one. -/
theorem streams_refuses {plan : NetworkPlan}
    (hplan : (NetworkPlan.make graph registry config device.ordinal device.label).result = .ok plan)
    (h : (budgetOf plan device.freeBytes device.streamLimit).streams config.streams = .error e) :
    Refuses graph registry config device e := by
  obtain hempty | hregion := Nat.eq_zero_or_pos plan.transients.layout.size
  · rw [Budget.streams_of_empty hempty] at h
    rw [← Except.error.inj h]
    exact .emptyRegion hplan hempty
  · obtain hcrowded | hroom := Nat.lt_or_ge device.freeBytes (plan.constants.size + plan.transients.layout.size)
    · rw [Budget.streams_of_crowded hregion hcrowded] at h
      rw [← Except.error.inj h]
      exact .noRoom hplan hcrowded
    · cases (Budget.streams_of_room hregion hroom).symm.trans h

/-- What planning guarantees to the allocations behind it. -/
structure Ready (prepared : Prepared) : Prop where
  /-- No constant loses its offset. -/
  offsets : ∀ c ∈ prepared.plan.constants.constants,
    prepared.plan.constants.layout.offset? c.id = some c.offset
  /-- There is at least one region. -/
  streams : 0 < prepared.streams
  /-- A region has bytes. -/
  region : 0 < prepared.plan.transients.layout.size

/-- A compilation on a host device is refused only for a reason that lies in the configuration, the graph, the
registry, the size of the words or the free memory. All that the stages check once more is guaranteed by the stages
before: nodes and bindings have their buffers, each node has its factory, buffers are known by their kind and listed
once, no lifespan is inverted, the alignment is a power of two, no constant loses its offset, the pool has regions, and
no memory call fails. -/
theorem compile_refuses (graph : Graph) (registry : Registry) (config : PlanConfig) (site : Site HostDevice)
    (hreachable : site.device.Reachable) (hword : config.alignment < Word.limit) :
    (∀ cause after, compile graph registry config site = (.error (.error cause), after) →
      Refuses graph registry config site.device cause) ∧
    (∀ a, Assignment.ofGraph graph registry = .ok a → Guarantees graph registry a) ∧
    (config.validate = .ok () → ∃ aligned, Alignment.ofBytes? config.alignment = .ok aligned) ∧
    ∀ prepared between, prepare graph registry config site = (.ok prepared, between) → Ready prepared ∧
      ∀ cause after, furnish graph config prepared between ≠ (.error (.error cause), after) := by
  have hfurnish : ∀ {site : Site HostDevice} {prepared : Prepared}, site.device.Sound →
      Settled config site.device prepared →
      (furnish graph config prepared).Ensures (fun _ _ => True) (fun halt _ => ∀ cause, halt ≠ .error cause) site := by
    intro site prepared hs hsettled
    refine (furnish_gains hs hsettled).mono (fun _ _ _ => trivial) ?_
    rintro halt after ⟨⟨reason, rfl⟩, -⟩ cause hcrash
    cases hcrash
  refine ⟨?_, fun a ha => guarantees ha, fun hvalid => exists_alignment hvalid hword, ?_⟩
  · intro cause after hcompile
    have hends : (compile graph registry config).Ensures (fun _ _ => True)
        (fun halt _ => ∀ cause, halt = .error cause → Refuses graph registry config site.device cause) site := by
      unfold compile
      apply ensures_within
      rw [build_eq]
      apply Act.ensures_bind
      refine (prepare_plans.and prepare_settles).mono ?_ ?_
      · rintro prepared settled ⟨-, hdevice, hsettled⟩
        change settled.device = site.device at hdevice
        have hs := hreachable.sound
        rw [← hdevice] at hs hsettled
        refine (hfurnish hs hsettled).mono (fun _ _ _ => trivial) ?_
        intro halt _ hnever cause hcause
        exact absurd hcause (hnever cause)
      · rintro halt _ ⟨⟨-, cause, rfl, hrefused | ⟨plan, hplan, hrefused⟩⟩, -⟩ other hother
        · rw [← Halt.error.inj hother]
          exact make_refuses hword hrefused
        · rw [← Halt.error.inj hother]
          exact streams_refuses hplan hrefused
    exact hends.of_error hcompile cause rfl
  · intro prepared between hprepare
    obtain ⟨hdevice, hsettled⟩ := prepare_settles.of_ok hprepare
    refine ⟨⟨hsettled.packed.offset?_eq_some, hsettled.grants.pos, hsettled.grants.region⟩, ?_⟩
    intro cause after hfails
    have hs := hreachable.sound
    rw [← hdevice] at hs hsettled
    exact (hfurnish hs hsettled).of_error hfails cause rfl

/-- A narrow device has no room for a region of the doublings. -/
theorem compile_refuses_doublings :
    narrowSite.device.Reachable ∧ ({} : PlanConfig).alignment < Word.limit ∧
      ∃ after, compile .doublings .doubling {} narrowSite =
          (.error (.error (.insufficientMemory 100 0 260)), after) ∧
        Refuses .doublings .doubling {} narrowSite.device (.insufficientMemory 100 0 260) := by
  have hreachable : narrowSite.device.Reachable := .fresh ..
  have hword : ({} : PlanConfig).alignment < Word.limit := by decide
  obtain ⟨after, hafter⟩ := compile_doublings_narrow
  have hrefused := (compile_refuses .doublings .doubling {} narrowSite hreachable hword).1 _ after hafter
  exact ⟨hreachable, hword, after, hafter, hrefused⟩

end Network
end MemoryPlan
