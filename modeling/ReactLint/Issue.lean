import ReactLint.Source
import ReactLint.Text.Quoted

/-!
# Issues

What the linter reports: a line, a message, how grave it is and its category.  An issue about the
file as a whole is *file-level*; it stands on line one and is reported apart from the others.

All findings of one category are folded into a single issue, anchored at the earliest line.
-/

namespace ReactLint

/-- How grave an issue is. -/
inductive Severity where
  | warn
  | error
  deriving DecidableEq, Repr

namespace Severity

/-- The name of a severity. -/
def label : Severity → String
  | warn => "warn"
  | error => "error"

/-- The severity of a name. -/
def ofLabel? (label : String) : Option Severity :=
  if label = "warn" then some warn else if label = "error" then some error else none

@[simp] theorem ofLabel?_label (s : Severity) : ofLabel? s.label = some s := by
  cases s <;> decide

/-- What is said about a name that is no severity's. -/
def unknownMessage (label : Text) : String :=
  String.ofList (Text.quote label) ++ " is not a valid Severity"

end Severity

/-- One reported issue. -/
structure Issue where
  line : Int
  message : String
  severity : Severity
  category : String
  fileLevel : Bool
  deriving DecidableEq, Repr

/-- The issue for findings on these lines, none when there are none.  A file-level issue stands on
line one. -/
def consolidate (lines : List Int) (category message : String) (severity : Severity)
    (fileLevel : Bool) : List Issue :=
  match lines.min? with
  | none => []
  | some first => [⟨if fileLevel then 1 else first, message, severity, category, fileLevel⟩]

/-- The file-level issue with this message. -/
def fileIssue (category message : String) (severity : Severity) : List Issue :=
  [⟨1, message, severity, category, true⟩]

/-- Line numbers as messages list them: `L3, L9`. -/
def lineRefs {α : Type} [ToString α] (lines : List α) : String :=
  ", ".intercalate (lines.map fun n => s!"L{n}")

/-- The file-level issues and the others, each in their order. -/
def splitIssues (issues : List Issue) : List Issue × List Issue := issues.partition Issue.fileLevel

/-- One more in the count of a category; a new category comes last. -/
def countCategory (category : String) : List (String × Nat) → List (String × Nat)
  | [] => [(category, 1)]
  | (c, n) :: rest =>
    if c = category then (c, n + 1) :: rest else (c, n) :: countCategory category rest

/-- How often each category occurs, in the order of first occurrence. -/
def summarize (categories : List String) : List (String × Nat) :=
  categories.foldl (fun counts c => countCategory c counts) []

end ReactLint
