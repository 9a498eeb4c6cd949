import MemoryPlan.Network.Compile
import MemoryPlan.Proofs.Device.Watched
/-!
# Watched compilations

A compilation on a watched device yields what it yields on the device below, and so does every part of it.
It has two stages: the first one settles the plan and the number of regions and makes no memory calls, the
second one allocates.
-/

namespace MemoryPlan

variable {δ : Type} [Device δ]

namespace DeviceBuffer

theorem create_mirrors (size : Nat) : (create (δ := Watched δ) size).Mirrors (create size) := by
  unfold create
  split
  · exact Act.mirrors_fail _
  · apply Act.mirrors_bind
    · exact Act.mirrors_call (fun device => Device.allocate device size) _
    · intro address
      apply Act.mirrors_bind
      · exact Act.mirrors_log _
      · intro _
        exact Act.mirrors_pure _

theorem copyIn_mirrors (buffer : DeviceBuffer) (offset : Nat) (data : Bytes) :
    (buffer.copyIn (δ := Watched δ) offset data).Mirrors (buffer.copyIn offset data) := by
  apply Act.mirrors_bind
  · exact Act.mirrors_ofExcept _
  · intro _
    exact Act.mirrors_call (fun device => Device.copyIn device (buffer.address + offset) data) _

/-- A release on the watched device is one on the device below. -/
theorem plain_release (buffer : DeviceBuffer) (site : Site (Watched δ)) :
    (buffer.release site).plain = buffer.release site.plain := by
  unfold release
  match hop : Device.free site.device.device buffer.address with
  | (outcome, device) =>
    have habove : Device.free site.device buffer.address =
        (outcome, ⟨device, site.device.calls ++ [.free buffer.address]⟩) := Watched.pass_eq hop _
    rw [habove]
    cases outcome <;> rfl

theorem plain_releaseAll (buffers : List DeviceBuffer) (site : Site (Watched δ)) :
    (releaseAll buffers site).plain = releaseAll buffers site.plain := by
  induction buffers generalizing site with
  | nil => rfl
  | cons buffer rest ih =>
    change (releaseAll rest (buffer.release site)).plain = releaseAll rest (buffer.release site.plain)
    rw [ih, plain_release]

theorem copyIn_quiet (buffer : DeviceBuffer) (offset : Nat) (data : Bytes) :
    (buffer.copyIn (δ := Watched δ) offset data).Quiet :=
  Act.quiet_bind (Act.quiet_ofExcept _) fun _ =>
    Act.quiet_call fun device => Device.copyIn device (buffer.address + offset) data

end DeviceBuffer

namespace ConstantBlock

/-- Uploading constants takes no memory. -/
theorem uploadAll_quiet (buffer : DeviceBuffer) (layout : Layout) (constants : List Constant) :
    (uploadAll (δ := Watched δ) buffer layout constants).Quiet := by
  induction constants with
  | nil => exact Act.quiet_pure ()
  | cons c rest ih =>
    unfold uploadAll
    split
    · exact ih
    · split
      · exact Act.quiet_fail _
      · exact Act.quiet_bind (Act.quiet_mapError (buffer.copyIn_quiet _ c.data) _) fun _ => ih

theorem uploadAll_mirrors (buffer : DeviceBuffer) (layout : Layout) (constants : List Constant) :
    (uploadAll (δ := Watched δ) buffer layout constants).Mirrors (uploadAll buffer layout constants) := by
  induction constants with
  | nil => exact Act.mirrors_pure ()
  | cons c rest ih =>
    unfold uploadAll
    split
    · exact ih
    · split
      · exact Act.mirrors_fail _
      · exact Act.mirrors_bind (Act.mirrors_mapError (buffer.copyIn_mirrors _ c.data) _) fun _ => ih

theorem upload_mirrors (set : ConstantSet) : (upload (δ := Watched δ) set).Mirrors (upload set) := by
  unfold upload
  split
  · exact Act.mirrors_bind (Act.mirrors_log _) fun _ => Act.mirrors_pure _
  · apply Act.mirrors_bind (Act.mirrors_mapError (DeviceBuffer.create_mirrors set.size) _)
    intro buffer
    apply Act.mirrors_bind
    · exact Act.mirrors_orUndo (uploadAll_mirrors buffer set.layout set.constants) buffer.plain_release
    · intro _
      exact Act.mirrors_bind (Act.mirrors_log _) fun _ => Act.mirrors_pure _

theorem plain_release (block : ConstantBlock) (site : Site (Watched δ)) :
    (block.release site).plain = block.release site.plain := by
  unfold release
  cases block.buffer with
  | none => rfl
  | some buffer => exact buffer.plain_release site

end ConstantBlock

namespace RegionPool

theorem createRegions_mirrors (size count : Nat) (made : List DeviceBuffer) :
    (createRegions (δ := Watched δ) size count made).Mirrors (createRegions size count made) := by
  induction count generalizing made with
  | zero => exact Act.mirrors_pure _
  | succ more ih =>
    apply Act.mirrors_bind
    · exact Act.mirrors_orUndo (DeviceBuffer.create_mirrors size) (DeviceBuffer.plain_releaseAll made.reverse)
    · intro region
      exact ih (region :: made)

theorem allocateRegions_mirrors (count : Nat) (layout : Layout) :
    (allocateRegions (δ := Watched δ) count layout).Mirrors (allocateRegions count layout) := by
  unfold allocateRegions
  split
  · exact Act.mirrors_fail _
  · split
    · exact Act.mirrors_fail _
    · exact Act.mirrors_mapError (createRegions_mirrors layout.size count []) _

theorem create_mirrors (count : Nat) (block : ConstantBlock) (layout : Layout) :
    (create (δ := Watched δ) count block layout).Mirrors (create count block layout) := by
  apply Act.mirrors_bind
  · exact Act.mirrors_orUndo (allocateRegions_mirrors count layout) block.plain_release
  · intro regions
    exact Act.mirrors_bind (Act.mirrors_log _) fun _ => Act.mirrors_pure _

theorem plain_release (pool : RegionPool) (site : Site (Watched δ)) :
    (pool.release site).plain = pool.release site.plain := by
  unfold release
  rw [DeviceBuffer.plain_releaseAll, ConstantBlock.plain_release]

end RegionPool

namespace Network

/-- What a compilation settles before it allocates memory. -/
structure Prepared where
  /-- The number of the device. -/
  ordinal : Int
  /-- The name of the device. -/
  label : String
  /-- The plan. -/
  plan : NetworkPlan
  /-- The number of regions. -/
  streams : Nat

/-- Makes the plan and asks the device for its free memory. -/
def prepare (graph : Graph) (registry : Registry) (config : PlanConfig) : Act δ PlanError Prepared := do
  let device ← Act.device
  let plan ← Act.ofNoted
    (NetworkPlan.make graph registry config (Device.ordinal device) (Device.label device))
  let info ← (Act.query fun device => Device.memoryInfo device).mapError .device
  let budget := budgetOf plan info.free (Device.streamLimit device)
  let streams ← Act.ofNoted (budget.notedStreams config.streams)
  return ⟨Device.ordinal device, Device.label device, plan, streams⟩

/-- Allocates the block and the regions. -/
def furnish (graph : Graph) (config : PlanConfig) (prepared : Prepared) : Act δ PlanError Network := do
  let block ← ConstantBlock.upload prepared.plan.constants
  let pool ← RegionPool.create prepared.streams block prepared.plan.transients.layout
  Act.note (compiledEvent graph prepared.plan prepared.streams config.streams)
  return ⟨graph.name, prepared.label, prepared.ordinal, prepared.plan.steps,
    prepared.plan.transients.reuse, pool⟩

/-- No memory is allocated before all is settled. -/
theorem build_eq (graph : Graph) (registry : Registry) (config : PlanConfig) :
    (build graph registry config : Act δ PlanError Network) =
      prepare graph registry config >>= furnish graph config := by
  unfold build prepare
  simp only [bind_assoc, pure_bind]
  rfl

theorem prepare_mirrors (graph : Graph) (registry : Registry) (config : PlanConfig) :
    (prepare (δ := Watched δ) graph registry config).Mirrors (prepare graph registry config) := by
  apply Act.mirrors_device_bind
  intro watched
  apply Act.mirrors_bind (Act.mirrors_ofNoted _)
  intro plan
  apply Act.mirrors_bind (Act.mirrors_mapError (Act.mirrors_query _ _) _)
  intro info
  exact Act.mirrors_bind (Act.mirrors_ofNoted _) fun _ => Act.mirrors_pure _

theorem furnish_mirrors (graph : Graph) (config : PlanConfig) (prepared : Prepared) :
    (furnish (δ := Watched δ) graph config prepared).Mirrors (furnish graph config prepared) := by
  apply Act.mirrors_bind (ConstantBlock.upload_mirrors prepared.plan.constants)
  intro block
  apply Act.mirrors_bind (RegionPool.create_mirrors prepared.streams block prepared.plan.transients.layout)
  intro pool
  exact Act.mirrors_bind (Act.mirrors_log _) fun _ => Act.mirrors_pure _

theorem prepare_quiet (graph : Graph) (registry : Registry) (config : PlanConfig) :
    (prepare (δ := Watched δ) graph registry config).Quiet := by
  apply Act.quiet_bind Act.quiet_device
  intro device
  apply Act.quiet_bind (Act.quiet_ofNoted _)
  intro plan
  apply Act.quiet_bind (Act.quiet_mapError (Act.quiet_query _) _)
  intro info
  exact Act.quiet_bind (Act.quiet_ofNoted _) fun _ => Act.quiet_pure _

theorem build_mirrors (graph : Graph) (registry : Registry) (config : PlanConfig) :
    (build (δ := Watched δ) graph registry config).Mirrors (build graph registry config) := by
  rw [build_eq, build_eq]
  exact Act.mirrors_bind (prepare_mirrors graph registry config) (furnish_mirrors graph config)

omit [Device δ] in
/-- What happens within a compilation is mirrored if it is mirrored without. -/
theorem mirrors_within {ε α : Type} {act : Act (Watched δ) ε α} {below : Act δ ε α} (h : act.Mirrors below)
    (name : String) : (within name act).Mirrors (within name below) := by
  intro site
  have hact := h { site with journal := site.journal.push (.enter name) }
  unfold within
  match hbelow : below { site.plain with journal := site.journal.push (.enter name) } with
  | (outcome, after) =>
    rw [show below (Site.plain { site with journal := _ }) = _ from hbelow] at hact
    obtain ⟨rfl, rfl⟩ := Prod.mk.inj hact
    rfl

omit [Device δ] in
/-- What is ensured within a compilation is ensured up to the entry that ends it. -/
theorem ensures_within {ε α : Type} {act : Act δ ε α} {good : α → Site δ → Prop}
    {bad : Halt ε → Site δ → Prop} {name : String} {site : Site δ}
    (h : act.Ensures (fun a after => good a { after with journal := after.journal.push (.leave name) })
      (fun halt after => bad halt { after with journal := after.journal.push (.leave name) })
      { site with journal := site.journal.push (.enter name) }) :
    (within name act).Ensures good bad site := by
  unfold within Act.Ensures
  dsimp only
  match hact : act { site with journal := site.journal.push (.enter name) } with
  | (.ok a, after) => exact h.of_ok hact
  | (.error halt, after) => exact h.of_error hact

/-- A network is compiled alike with and without a witness. -/
theorem compile_mirrors (graph : Graph) (registry : Registry) (config : PlanConfig) :
    (compile (δ := Watched δ) graph registry config).Mirrors (compile graph registry config) :=
  mirrors_within (build_mirrors graph registry config) graph.name

end Network
end MemoryPlan
