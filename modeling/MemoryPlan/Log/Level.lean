import MemoryPlan.Event
import MemoryPlan.Text.Blank
import MemoryPlan.Text.Pattern
/-!
# Log levels and formats

The words by which levels and formats are chosen, and the errors of setting up a log.
-/

namespace MemoryPlan

/-- How log lines are written. -/
inductive LogFormat where
  /-- For people to read. -/
  | human
  /-- One JSON object a line. -/
  | json
  deriving DecidableEq, Repr

/-- Why the file system refused a file or directory. -/
inductive FileFault where
  /-- A file stands where a directory should be made. -/
  | occupied
  /-- A file stands where the path passes through. -/
  | notDirectory
  /-- A directory stands where the file should be. -/
  | isDirectory
  /-- There is nothing of that name. -/
  | notFound
  /-- The path or a name on it is too long. -/
  | nameTooLong
  /-- The path holds a NUL character. -/
  | nulCharacter
  deriving DecidableEq, Repr

namespace FileFault

/-- The fault in the words of the operating system. -/
def message : FileFault → String
  | occupied => "File exists (os error 17)"
  | notDirectory => "Not a directory (os error 20)"
  | isDirectory => "Is a directory (os error 21)"
  | notFound => "No such file or directory (os error 2)"
  | nameTooLong => "File name too long (os error 36)"
  | nulCharacter => "file name contained an unexpected NUL byte"

end FileFault

/-- Why a log could not be set up. -/
inductive LogError where
  /-- A word that is no level. -/
  | invalidLevel (word : String)
  /-- A filter directive with a word that is no level. -/
  | invalidFilterLevel
  /-- A filter directive that cannot be read. -/
  | invalidDirective
  /-- A filter directive with a value of a field that is no pattern. -/
  | invalidFieldPattern (fault : Text.PatternFault)
  /-- A word that is no format. -/
  | invalidFormat (word : String)
  /-- The directory of the log file could not be made. -/
  | directoryFailed (fault : FileFault)
  /-- The log file could not be opened. -/
  | openFailed (path : String) (fault : FileFault)
  /-- Another subscriber was installed first. -/
  | installFailed
  deriving DecidableEq, Repr

namespace LogError

/-- Why a pattern is refused, in words. -/
def faultText : Text.PatternFault → String
  | .unreadable => "error building NFA"
  | .wideWords =>
    "unsupported regex feature for DFAs: cannot build DFAs for regexes with Unicode word boundaries; " ++
      "switch to ASCII word boundaries, or heuristically enable Unicode word boundaries or use a different " ++
      "regex engine"

/-- The error in words. -/
def message : LogError → String
  | invalidLevel word => "invalid log level: " ++ word
  | invalidFilterLevel =>
    "invalid log level: error parsing level filter: expected one of \"off\", \"error\", \"warn\", " ++
      "\"info\", \"debug\", \"trace\", or a number 0-5"
  | invalidDirective => "invalid log level: invalid filter directive"
  | invalidFieldPattern fault => "invalid log level: invalid field filter: " ++ faultText fault
  | invalidFormat word => "invalid log format: " ++ word
  | directoryFailed fault => "failed to create log directory: " ++ fault.message
  | openFailed path fault => "failed to open log file: " ++ path ++ ": " ++ fault.message
  | installFailed =>
    "failed to install subscriber: a global default trace dispatcher has already been set"

end LogError

namespace Level

/-- The word that chooses the level. -/
def word : Level → String
  | error => "error"
  | warn => "warn"
  | info => "info"
  | debug => "debug"
  | trace => "trace"

/-- Every level, most important first. -/
def all : List Level := [error, warn, info, debug, trace]

/-- The level of a word in lower case. -/
def ofWord? (s : String) : Option Level := all.find? fun level => level.word == s

/-- Reads a level; blanks around the word and its case do not matter. -/
def ofText? (s : String) : Except LogError Level :=
  let chosen := Text.lowerAscii (Text.trim s)
  match ofWord? (if chosen = "warning" then "warn" else chosen) with
  | some level => .ok level
  | none => .error (.invalidLevel s)

end Level

namespace LogFormat

/-- The format's name. -/
def text : LogFormat → String
  | human => "human"
  | json => "json"

/-- Reads a format; blanks around the word and its case do not matter. -/
def ofText? (s : String) : Except LogError LogFormat :=
  let chosen := Text.lowerAscii (Text.trim s)
  if ["human", "pretty", "console"].contains chosen then .ok human
  else if ["json", "structured"].contains chosen then .ok json
  else .error (.invalidFormat s)

end LogFormat
end MemoryPlan
