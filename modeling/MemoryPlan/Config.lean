import MemoryPlan.StreamCount
/-!
# Configurations

The settings that planning reads: the device, the wanted number of concurrent requests and the alignment
of offsets. A configuration may hold refused values until it is validated; `PlanConfig.ofEnvironment`
yields validated ones only.
-/

namespace MemoryPlan

/-- The settings of a plan. -/
structure PlanConfig where
  /-- The ordinal of the device to plan for. -/
  deviceId : Int := 0
  /-- The wanted number of concurrent requests. -/
  streams : StreamCount := .auto
  /-- The alignment of offsets in bytes, meant to be a power of two. -/
  alignment : Nat := 256
  deriving DecidableEq, Repr

/-- The environment settings of a plan; an unset one is absent. -/
structure PlanEnvironment where
  /-- Text of the device ordinal. -/
  deviceId : Option String := none
  /-- Text of the stream count. -/
  streams : Option String := none
  /-- Text of the alignment. -/
  alignment : Option String := none
  deriving DecidableEq, Repr

namespace PlanConfig

/-- The configuration that is used when nothing is set. -/
def standard : PlanConfig := {}

instance : Inhabited PlanConfig := ⟨standard⟩

/-- One more than the largest device ordinal. -/
def deviceBound : Nat := 0x80000000

/-- Refuses a negative device and an alignment that is not a power of two, in this order. -/
def validate (config : PlanConfig) : Except PlanError Unit :=
  if config.deviceId < 0 then
    .error (.invalidConfiguration (.negativeDevice config.deviceId))
  else if Word.isPowerOfTwo config.alignment then .ok ()
  else .error (.invalidConfiguration (.alignment config.alignment))

/-- Reads a device ordinal; blanks around it do not matter. -/
def readDevice? (s : String) : Except PlanError Int :=
  match Text.signed? deviceBound (Text.trim s) with
  | some ordinal => .ok ordinal
  | none => .error (.invalidConfiguration (.deviceText s))

/-- Reads an alignment; blanks around it do not matter. -/
def readAlignment? (s : String) : Except PlanError Nat :=
  match Text.unsigned? Word.limit (Text.trim s) with
  | some bytes => .ok bytes
  | none => .error (.invalidConfiguration (.alignmentText s))

/-- Reads a setting, or keeps its default if it is absent. -/
def settingOr {α : Type} (read : String → Except PlanError α) (absent : α) :
    Option String → Except PlanError α
  | none => .ok absent
  | some s => read s

/-- The defaults overridden by the environment, validated. -/
def ofEnvironment (env : PlanEnvironment) : Except PlanError PlanConfig := do
  let deviceId ← settingOr readDevice? standard.deviceId env.deviceId
  let streams ← settingOr StreamCount.ofText? standard.streams env.streams
  let alignment ← settingOr readAlignment? standard.alignment env.alignment
  let config : PlanConfig := ⟨deviceId, streams, alignment⟩
  config.validate
  return config

end PlanConfig
end MemoryPlan
