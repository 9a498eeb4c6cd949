import MemoryPlan.Log.FileTree
/-!
# Installing a log

A process has one place for a subscriber, which can be filled once and never emptied. The library remembers
whether it filled the place itself; only a success is remembered, and after it every further call succeeds
and changes nothing. `Logging` holds the place and the memory. It works with any kind of files and with any
reader of filters: what the text of a filter means is up to the kind of filters.
-/

namespace MemoryPlan

/-- The files that a log can be written to. -/
class LogFiles (ω : Type) where
  /-- Opens a file for appending, making what is missing. -/
  openLog : ω → String → Except LogError Unit × ω

instance : LogFiles FileTree := ⟨FileTree.openLog⟩

/-- The filters that a log can have. -/
class LogFilters (φ : Type) where
  /-- The filter with one level for all targets. -/
  ofLevel : Level → φ
  /-- Reads a filter, or says why the text is none. -/
  ofText? : String → Except LogError φ

instance : LogFilters LogFilter := ⟨LogFilter.ofLevel, LogFilter.ofText?⟩

/-- The filter of the environment if there is one, else that of a level. -/
def LogFilters.choose {φ : Type} [LogFilters φ] (level : Level) : Option String → Except LogError φ
  | none => .ok (ofLevel level)
  | some text => ofText? text

/-- What is in a process's place for a subscriber. -/
inductive Subscriber (φ : Type := LogFilter) where
  /-- Nothing yet. -/
  | none
  /-- A subscriber of somebody else. -/
  | foreign
  /-- The library's own subscriber. -/
  | own (setup : LogSetup φ)
  deriving DecidableEq, Repr

/-- The place for a subscriber, and whether the library filled it. -/
structure Logging (φ : Type := LogFilter) where
  /-- The place. -/
  subscriber : Subscriber φ := .none
  /-- Whether an earlier call succeeded. -/
  isInitialized : Bool := false
  deriving DecidableEq, Repr

namespace Logging

variable {φ : Type}

/-- Fills the place, if it is empty. -/
def occupy (logging : Logging φ) (subscriber : Subscriber φ) : Except LogError (Logging φ) :=
  match logging.subscriber with
  | .none => .ok { logging with subscriber }
  | _ => .error .installFailed

variable {ω : Type} [LogFiles ω] [LogFilters φ]

/-- Opens the log file of the settings, if there is one. -/
def openFileOf (config : LogConfig) (files : ω) : Except LogError Unit × ω :=
  match config.file with
  | none => (.ok (), files)
  | some path => LogFiles.openLog files path

/-- Builds the filter, opens the log file and fills the place, in this order. -/
def install (logging : Logging φ) (config : LogConfig) (filterText : Option String) (files : ω) :
    Except LogError (Logging φ) × ω :=
  match LogFilters.choose config.level filterText with
  | .error e => (.error e, files)
  | .ok filter =>
    match openFileOf config files with
    | (.error e, after) => (.error e, after)
    | (.ok (), after) => (logging.occupy (.own ⟨filter, config⟩), after)

/-- Installs the library's subscriber, unless an earlier call did. -/
def init (logging : Logging φ) (config : LogConfig) (filterText : Option String) (files : ω) :
    Except LogError Unit × Logging φ × ω :=
  if logging.isInitialized then (.ok (), logging, files)
  else match logging.install config filterText files with
    | (.ok installed, after) => (.ok (), { installed with isInitialized := true }, after)
    | (.error e, after) => (.error e, logging, after)

/-- Somebody else installs a subscriber; tells whether the place was empty. -/
def installForeign (logging : Logging φ) : Bool × Logging φ :=
  match logging.occupy .foreign with
  | .ok after => (true, after)
  | .error _ => (false, logging)

/-- The library's own subscriber, if it is installed. -/
def setup? (logging : Logging φ) : Option (LogSetup φ) :=
  match logging.subscriber with
  | .own setup => some setup
  | _ => none

end Logging

/-- A process: its place for a subscriber, its console and its files, with files and filters of any kind. -/
structure LogProcess (ω : Type := FileTree) (φ : Type := LogFilter) [Inhabited ω] where
  /-- The place for a subscriber. -/
  logging : Logging φ := {}
  /-- The lines of the console. -/
  console : List LogLine := []
  /-- The files. -/
  files : ω := default
  deriving DecidableEq, Repr

namespace LogProcess

variable {ω φ : Type} [Inhabited ω] [LogFiles ω] [LogFilters φ]

/-- Writes complaints to the console; one with line feeds takes several lines. -/
def complain (process : LogProcess ω φ) (complaints : List String) : LogProcess ω φ :=
  { process with console := process.console ++ (complaints.flatMap (Text.split '\n')).map .plain }

/-- Reads settings from the environment; complaints go to the console. -/
def readSettings (process : LogProcess ω φ) (env : LogEnvironment) : LogConfig × LogProcess ω φ :=
  let (config, complaints) := LogConfig.ofEnvironment env
  (config, process.complain complaints)

/-- Installs a log with settings. -/
def init (process : LogProcess ω φ) (env : LogEnvironment) (config : LogConfig) :
    Except LogError Unit × LogProcess ω φ :=
  let (outcome, logging, files) := process.logging.init config env.filter process.files
  (outcome, { process with logging, files })

/-- Installs a log with the settings of the environment; complaints go to the console. -/
def initFromEnvironment (process : LogProcess ω φ) (env : LogEnvironment) :
    Except LogError Unit × LogProcess ω φ :=
  let (config, after) := process.readSettings env
  after.init env config

/-- Installs a log with the settings of the environment; a failure is only complained of. -/
def initQuietly (process : LogProcess ω φ) (env : LogEnvironment) : LogProcess ω φ :=
  match process.initFromEnvironment env with
  | (.ok (), after) => after
  | (.error e, after) => after.complain [s!"memforge: logging not initialized: {e.message}"]

/-- Somebody else installs a subscriber. -/
def installForeign (process : LogProcess ω φ) : Bool × LogProcess ω φ :=
  let (installed, logging) := process.logging.installForeign
  (installed, { process with logging })

/-- The installed subscriber writes what a journal says. -/
def emit (process : LogProcess) (journal : List Record) : LogProcess :=
  match process.logging.setup? with
  | none => process
  | some setup =>
    let files := match setup.config.file with
      | none => process.files
      | some path => process.files.append path (setup.fileLines journal)
    { process with console := process.console ++ setup.consoleLines journal, files }

end LogProcess
end MemoryPlan
