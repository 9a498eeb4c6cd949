import MemoryPlan.Journal
import MemoryPlan.Log.Config
import MemoryPlan.Log.Filter
import MemoryPlan.Text.Terminal
/-!
# Log lines

What a subscriber writes for the entries of a journal. Each event that passes the filter gives a line on
the console and one in the log file; the compilation that an event belongs to is its span, and the events
of other callers belong to none. A span is kept only if the filter keeps it, and its end gives a line of its
own if the settings ask for it.
-/

namespace MemoryPlan

/-- A line about an event. -/
structure LogEntry where
  /-- How the line is written. -/
  format : LogFormat
  /-- The importance of the event. -/
  level : Level
  /-- What the event says. -/
  message : String
  /-- The target of the event, if the line shows it. -/
  target : Option String
  /-- Whether the line shows the place in the source. -/
  showsPlace : Bool
  /-- The network whose compilation the event belongs to. -/
  span : Option String
  deriving DecidableEq, Repr

/-- A line of a console or a file. -/
inductive LogLine where
  /-- A line about an event. -/
  | entry (entry : LogEntry)
  /-- Any other line. -/
  | plain (text : String)
  deriving DecidableEq, Repr

/-- The filter and the settings of an installed log. -/
structure LogSetup (φ : Type := LogFilter) where
  /-- What is logged. -/
  filter : φ
  /-- How it is logged. -/
  config : LogConfig
  deriving DecidableEq, Repr

namespace LogSetup

/-- The event at the end of a span. -/
def closeEvent : Event := ⟨LogFilter.spanLevel, .compilation, "close"⟩

/-- The console entry of an event in a span, with those words. -/
def consoleEntry (setup : LogSetup) (span : Option String) (event : Event) (message : String) :
    LogEntry where
  format := setup.config.format
  level := event.level
  message := message
  target := if setup.config.format = .human then some event.part.target else none
  showsPlace := setup.config.showsPlace
  span := span

/-- The console lines of an event in a span. In the format for people the words are disarmed, and from
their second line on they stand in lines of their own. -/
def consoleLinesOf (setup : LogSetup) (span : Option String) (event : Event) : List LogLine :=
  match setup.config.format with
  | .json => [.entry (setup.consoleEntry span event event.message)]
  | .human =>
    match Text.split '\n' (Text.disarmed event.message) with
    | [] => []
    | first :: others => .entry (setup.consoleEntry span event first) :: others.map .plain

/-- The log file line of an event in a span. -/
def fileEntry (span : Option String) (event : Event) : LogEntry where
  format := .json
  level := event.level
  message := event.message
  target := none
  showsPlace := true
  span := span

/-- The events that are logged, each with its span, for journal entries inside a span. -/
def logged (setup : LogSetup) : Option String → List Record → List (Option String × Event)
  | _, [] => []
  | span, .event event :: rest =>
    if setup.filter.passesIn span event.level event.part.target then
      (span, event) :: setup.logged span rest
    else setup.logged span rest
  | span, .elsewhere event :: rest =>
    if setup.filter.passes event.level event.part.target then (none, event) :: setup.logged span rest
    else setup.logged span rest
  | span, .enter network :: rest =>
    setup.logged (if setup.filter.keepsSpans then some network else span) rest
  | span, .leave network :: rest =>
    if setup.filter.keepsSpans then
      if setup.config.logsSpans then (some network, closeEvent) :: setup.logged none rest
      else setup.logged none rest
    else setup.logged span rest

/-- The console lines of a journal. -/
def consoleLines (setup : LogSetup) (journal : List Record) : List LogLine :=
  (setup.logged none journal).flatMap fun (span, event) => setup.consoleLinesOf span event

/-- The log file lines of a journal. -/
def fileLines (setup : LogSetup) (journal : List Record) : List LogLine :=
  (setup.logged none journal).map fun (span, event) => .entry (fileEntry span event)

end LogSetup
end MemoryPlan
