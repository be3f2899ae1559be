import ReactLint.Log
import ReactLint.Text.Case
import ReactLint.Thresholds

/-!
# Configuration from the environment

The service is configured by variables.  A variable that is not set, or that cannot be used, leaves
the default in place; a limit that cannot be used is logged.
-/

namespace ReactLint

open Text

/-- The variable that sets a limit. -/
def Limit.variableName : Limit → String
  | fileLines => "LINT_MAX_FILE_LINES"
  | functionLines => "LINT_MAX_FUNCTION_LINES"
  | params => "LINT_MAX_PARAMS"
  | constantLines => "LINT_MAX_CONSTANT_LINES"
  | markupLines => "LINT_MAX_JSX_LINES"
  | stateHooks => "LINT_MAX_STATE_HOOKS"

/-- The variables that are set. -/
structure Environment where
  bindings : List (Text × Text)
  deriving DecidableEq, Repr

namespace Environment

/-- The value of a variable, if it is set. -/
def get? (e : Environment) (name : Text) : Option Text := e.bindings.lookup name

/-- The environment without a variable. -/
def unset (e : Environment) (name : Text) : Environment :=
  ⟨e.bindings.filter fun v => v.1 != name⟩

/-- The environment with a variable set. -/
def set (e : Environment) (name value : Text) : Environment :=
  ⟨(name, value) :: (e.unset name).bindings⟩

/-- Why a variable cannot be set. -/
inductive VariableError where
  /-- A NUL stands in the name or the value. -/
  | embeddedNul
  /-- An equals sign stands in the name. -/
  | illegalName
  | emptyName
  deriving DecidableEq, Repr

/-- What is said about a variable that cannot be set. -/
def VariableError.message : VariableError → String
  | embeddedNul => "embedded null byte"
  | illegalName => "illegal environment variable name"
  | emptyName => "[Errno 22] Invalid argument"

/-- Why a variable cannot be set, if so. -/
def variableError? (name value : Text) : Option VariableError :=
  if name.contains '\x00' || value.contains '\x00' then some .embeddedNul
  else if name.contains '=' then some .illegalName
  else if name.isEmpty then some .emptyName
  else none

/-- The address that the service listens on. -/
def host (e : Environment) : Text := trim ((e.get? "HOST".toList).getD "0.0.0.0".toList)

/-- The port that the service listens on. -/
def port (e : Environment) : Int := ((e.get? "PORT".toList).bind readInteger?).getD 8000

/-- How much the service logs. -/
def logLevel (e : Environment) : Text :=
  let level := upper (trim ((e.get? "LOG_LEVEL".toList).getD []))
  if level.isEmpty then "INFO".toList else level

/-- The log entry on a limit that is no integer. -/
def notIntegerEntry (l : Limit) (raw : Text) : LogEntry :=
  let var := l.variableName
  let value := String.ofList (quote raw)
  let option := l.option
  let default := l.default
  ⟨.warning, .configuration, s!"{var}={value} is not an integer; using {option}={default}"⟩

/-- The log entry on a limit that is not positive. -/
def notPositiveEntry (l : Limit) (value : Int) : LogEntry :=
  let var := l.variableName
  let option := l.option
  let default := l.default
  ⟨.warning, .configuration, s!"{var}={value} must be positive; using {option}={default}"⟩

/-- The value of a limit, and the log entry when its variable cannot be used. -/
def limit (e : Environment) (l : Limit) : Int × List LogEntry :=
  let raw := trim ((e.get? l.variableName.toList).getD [])
  if raw.isEmpty then (l.default, [])
  else match readInteger? raw with
    | none => (l.default, [notIntegerEntry l raw])
    | some n => if n ≤ 0 then (l.default, [notPositiveEntry l n]) else (n, [])

/-- The thresholds that the variables give. -/
def thresholds (e : Environment) : Thresholds := .ofFun fun l => (e.limit l).1

/-- What is logged when the thresholds are read. -/
def thresholdLog (e : Environment) : List LogEntry := Limit.all.flatMap fun l => (e.limit l).2

end Environment

end ReactLint
