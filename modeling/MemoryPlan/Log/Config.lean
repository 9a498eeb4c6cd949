import MemoryPlan.Log.Level
/-!
# Log configurations

The settings of a log. Settings of the environment that cannot be read are passed over with a complaint.
-/

namespace MemoryPlan

/-- The settings of a log. -/
structure LogConfig where
  /-- The least important level that is logged, unless a filter of the environment decides. -/
  level : Level := .info
  /-- How console lines are written. -/
  format : LogFormat := .human
  /-- Whether console lines show the place in the source. -/
  showsPlace : Bool := false
  /-- Whether the end of each compilation is logged. -/
  logsSpans : Bool := false
  /-- A file that gets every line too. -/
  file : Option String := none
  deriving DecidableEq, Repr, Inhabited

/-- The environment settings of a log; an unset one is absent. -/
structure LogEnvironment where
  /-- Text of the filter. -/
  filter : Option String := none
  /-- Text of the level. -/
  level : Option String := none
  /-- Text of the format. -/
  format : Option String := none
  /-- The log file. -/
  file : Option String := none
  deriving DecidableEq, Repr, Inhabited

namespace LogConfig

/-- The complaint about a setting of the environment that is passed over. -/
def complaint (variableName : String) (error : LogError) : String :=
  s!"memforge: ignoring {variableName}: {error.message}"

/-- A setting of the environment, or its default with a complaint if it cannot be read. -/
def settingOr {α : Type} (variableName : String) (read : String → Except LogError α) (absent : α) :
    Option String → α × List String
  | none => (absent, [])
  | some s =>
    match read s with
    | .ok a => (a, [])
    | .error e => (absent, [complaint variableName e])

/-- The defaults overridden by the environment, and the complaints about what could not be read. -/
def ofEnvironment (env : LogEnvironment) : LogConfig × List String :=
  let (level, levelComplaints) := settingOr "MEMFORGE_LOG_LEVEL" Level.ofText? .info env.level
  let (format, formatComplaints) := settingOr "MEMFORGE_LOG_FORMAT" LogFormat.ofText? .human env.format
  ({ level, format, file := env.file.filter fun path => !path.isEmpty },
    levelComplaints ++ formatComplaints)

end LogConfig
end MemoryPlan
