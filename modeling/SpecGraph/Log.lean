import SpecGraph.Json.Writer

/-!
# Log records

A record has a level, the name of the logger it came from and a message. A handler shows the records
from a level on, as lines of text or as JSON objects, each with the time at its start.
-/

namespace SpecGraph

/-- How grave a record is. -/
inductive Level where
  | debug | info | warning | error | critical
deriving DecidableEq, Inhabited

namespace Level

/-- The name of a level. -/
def name : Level → String
  | debug => "DEBUG"
  | info => "INFO"
  | warning => "WARNING"
  | error => "ERROR"
  | critical => "CRITICAL"

/-- The number of a level, by which levels are ordered. -/
def number : Level → Nat
  | debug => 10
  | info => 20
  | warning => 30
  | error => 40
  | critical => 50

end Level

/-- One record of a log. -/
structure LogRecord where
  /-- How grave the record is. -/
  level : Level
  /-- The name of the logger. -/
  logger : String
  /-- What happened. -/
  message : String
deriving DecidableEq, Inhabited

/-- The form of the lines a handler shows. -/
inductive LogFormat where
  | text | json
deriving DecidableEq, Inhabited

/-- What a handler shows and how. -/
structure LogHandler where
  /-- The number of the least level shown. -/
  threshold : Nat
  /-- The form of a line. -/
  format : LogFormat
deriving DecidableEq, Inhabited

namespace LogHandler

/-- The line of a record, without its end, at a time. -/
def line (handler : LogHandler) (time : String) (record : LogRecord) : String :=
  match handler.format with
  | .text =>
      time ++ " - " ++ record.logger ++ " - " ++ record.level.name ++ " - " ++ record.message
  | .json =>
      let entries := Data.object [("message", .text record.message), ("time", .text time)]
      match Json.write .line entries with
      | .ok text => text
      | .error _ => ""

/-- The lines of the records that a handler shows. -/
def lines (handler : LogHandler) (time : String) (records : List LogRecord) : List String :=
  (records.filter fun record => handler.threshold ≤ record.level.number).map (handler.line time)

end LogHandler

/-! The names of the loggers. -/
namespace Logger

/-- The logger of builders. -/
def registry : String := "hyperspec.schema.registry"

/-- The logger of namespaces. -/
def types : String := "hyperspec.schema.types"

/-- The logger of manifest comparison. -/
def compat : String := "hyperspec.schema.compat"

/-- The logger of the stages that write manifests. -/
def manifest : String := "hyperspec.compile.manifest"

/-- The logger of the command line. -/
def commandLine : String := "hyperspec.tools.schema_cli"

end Logger

end SpecGraph
