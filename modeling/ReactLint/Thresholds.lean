import ReactLint.Number.Integer
import ReactLint.Value

/-!
# Thresholds

The six limits that rules measure against.  They are read from a list of option names and values:
each entry by itself, the first that cannot be read being reported.  A limit is positive and may be
given as an integer, as a real number, which is cut to its integer part, or as text.

Texts are read up to `maxDigits` digits, a bound that the runtime sets.  It sets the same bound on
writing, and this is left out: a limit that was given as an integer may have any number of digits,
and every message that shows it is written in full.
-/

namespace ReactLint

/-- The limits by name. -/
inductive Limit where
  | fileLines
  | functionLines
  | params
  | constantLines
  | markupLines
  | stateHooks
  deriving DecidableEq, Repr

namespace Limit

/-- All limits, in the order in which they are listed. -/
def all : List Limit := [fileLines, functionLines, params, constantLines, markupLines, stateHooks]

/-- The option that sets a limit. -/
def option : Limit → String
  | fileLines => "max_file_lines"
  | functionLines => "max_function_lines"
  | params => "max_params"
  | constantLines => "max_constant_lines"
  | markupLines => "max_jsx_lines"
  | stateHooks => "max_state_hooks"

theorem mem_all (l : Limit) : l ∈ all := by cases l <;> decide

/-- The limit that an option sets. -/
def ofOption? (name : Text) : Option Limit := all.find? fun l => l.option.toList == name

@[simp] theorem ofOption?_option (l : Limit) : ofOption? l.option.toList = some l := by
  cases l <;> decide

/-- The value of a limit that is not set. -/
def default : Limit → Int
  | fileLines => 150
  | functionLines => 50
  | params => 3
  | constantLines => 20
  | markupLines => 60
  | stateHooks => 5

end Limit

/-- A value for every limit. -/
structure Thresholds where
  fileLines : Int
  functionLines : Int
  params : Int
  constantLines : Int
  markupLines : Int
  stateHooks : Int
  deriving DecidableEq, Repr

namespace Thresholds

/-- The thresholds with these values. -/
def ofFun (f : Limit → Int) : Thresholds :=
  ⟨f .fileLines, f .functionLines, f .params, f .constantLines, f .markupLines, f .stateHooks⟩

/-- The value of one limit. -/
def get (t : Thresholds) : Limit → Int
  | .fileLines => t.fileLines
  | .functionLines => t.functionLines
  | .params => t.params
  | .constantLines => t.constantLines
  | .markupLines => t.markupLines
  | .stateHooks => t.stateHooks

@[simp] theorem get_ofFun (f : Limit → Int) (l : Limit) : (ofFun f).get l = f l := by
  cases l <;> rfl

@[simp] theorem ofFun_get (t : Thresholds) : ofFun t.get = t := rfl

/-- The thresholds with one limit set. -/
def set (t : Thresholds) (l : Limit) (n : Int) : Thresholds :=
  ofFun fun k => if k = l then n else t.get k

@[simp] theorem get_set (t : Thresholds) (l k : Limit) (n : Int) :
    (t.set l n).get k = if k = l then n else t.get k := by
  simp [set]

/-- The thresholds when nothing is set. -/
def default : Thresholds := ofFun Limit.default

end Thresholds

/-! ## Reading options -/

/-- Why an option cannot be read. -/
inductive OptionError where
  | unknown (name : Text)
  | notInteger (limit : Limit) (value : Value)
  | notPositive (limit : Limit) (value : Int)
  /-- An infinite number has no integer part. -/
  | infinite

/-- What is said about an option that cannot be read. -/
def OptionError.message : OptionError → String
  | unknown name =>
    let name := String.ofList name
    s!"Unknown option: {name}"
  | notInteger limit value =>
    let name := limit.option
    let value := String.ofList value.toText
    s!"{name} must be an integer, got {value}"
  | notPositive limit value =>
    let name := limit.option
    s!"{name} must be positive, got {value}"
  | infinite => "cannot convert float infinity to integer"

namespace Thresholds

/-- The integer that a value stands for as the value of a limit. -/
def integerOf (l : Limit) : Value → Except OptionError Int
  | .integer n => .ok n
  | .real (.infinite _) => .error .infinite
  | .real x =>
    match x.truncate? with
    | some n => .ok n
    | none => .error (.notInteger l (.real x))
  | .text t =>
    match readInteger? t with
    | some n => .ok n
    | none => .error (.notInteger l (.text t))
  | v => .error (.notInteger l v)

/-- The limit and the value that one option sets. -/
def readOption (name : Text) (v : Value) : Except OptionError (Limit × Int) :=
  match Limit.ofOption? name with
  | none => .error (.unknown name)
  | some l =>
    match integerOf l v with
    | .error e => .error e
    | .ok n => if n ≤ 0 then .error (.notPositive l n) else .ok (l, n)

/-- Sets the options one after the other. -/
def setOptions (t : Thresholds) : List (Text × Value) → Except OptionError Thresholds
  | [] => .ok t
  | (name, v) :: rest =>
    match readOption name v with
    | .error e => .error e
    | .ok (l, n) => setOptions (t.set l n) rest

/-- The thresholds that a list of options gives, the default where nothing is set. -/
def ofOptions (options : List (Text × Value)) : Except OptionError Thresholds :=
  setOptions default options

/-- The options that give these thresholds. -/
def toOptions (t : Thresholds) : List (Text × Value) :=
  Limit.all.map fun l => (l.option.toList, .integer (t.get l))

/-- The thresholds with some limits replaced; without any, the thresholds themselves. -/
def override (t : Thresholds) (overrides : Limit → Option Int) : Except OptionError Thresholds :=
  if Limit.all.all fun l => (overrides l).isNone then .ok t
  else ofOptions (Limit.all.map fun l => (l.option.toList, .integer ((overrides l).getD (t.get l))))

end Thresholds

end ReactLint
