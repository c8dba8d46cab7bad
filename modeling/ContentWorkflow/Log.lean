/-!
# Log lines

What an operation tells those who run the site, apart from its answer.
-/

namespace ContentWorkflow

/-- How much a line matters. -/
inductive LogLevel where
  | trace
  | debug
  | info
  | warn
  | error
  deriving DecidableEq

/-- The name of the level. -/
def LogLevel.name : LogLevel → String
  | .trace => "TRACE"
  | .debug => "DEBUG"
  | .info => "INFO"
  | .warn => "WARN"
  | .error => "ERROR"

/-- How much has to be told for a line of the level to be told. -/
def LogLevel.verbosity : LogLevel → Nat
  | .error => 0
  | .warn => 1
  | .info => 2
  | .debug => 3
  | .trace => 4

/-- A line of the log. -/
structure LogLine where
  level : LogLevel
  message : String
  deriving DecidableEq

/-- The level and the message. -/
def LogLine.toText (line : LogLine) : String :=
  s!"{line.level.name} {line.message}"

end ContentWorkflow
