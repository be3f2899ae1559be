/-!
# Log entries

What the linter and the service around it record as they work.
-/

namespace ReactLint

/-- How important a log entry is. -/
inductive LogLevel where
  | debug
  | info
  | warning
  deriving DecidableEq, Repr

/-- The name of a level. -/
def LogLevel.label : LogLevel → String
  | debug => "DEBUG"
  | info => "INFO"
  | warning => "WARNING"

/-- Which part of the program an entry comes from. -/
inductive LogOrigin where
  /-- The linter, running its rules over a file. -/
  | linter
  /-- The service, reading its configuration. -/
  | configuration
  /-- The service, answering a check. -/
  | checker
  deriving DecidableEq, Repr

/-- One log entry. -/
structure LogEntry where
  level : LogLevel
  origin : LogOrigin
  message : String
  deriving DecidableEq, Repr

end ReactLint
