import ReactLint.Log
import ReactLint.Rule

/-!
# Linting a source

Runs rules over a source, one after the other.  The result is the issues in that order; a rule that
reports anything leaves a log entry.
-/

namespace ReactLint

/-- Issues together with what was logged while they were found. -/
structure Findings where
  issues : List Issue
  log : List LogEntry
  deriving DecidableEq, Repr

/-- The thresholds and the rules that sources are checked with. -/
structure Linter where
  thresholds : Thresholds
  rules : List Rule
  deriving DecidableEq, Repr

namespace Linter

/-- The linter that runs every rule. -/
def full (t : Thresholds) : Linter := ⟨t, Rule.all⟩

/-- The log entry of a rule that reported `count` issues on the file `path`. -/
def ruleEntry (path : Text) (r : Rule) (count : Nat) : LogEntry :=
  let path := String.ofList path
  let rule := r.name
  ⟨.debug, .linter, s!"{path}: {rule} found {count} issue(s)"⟩

/-- The log entry of a rule, none when it reported nothing. -/
def ruleLog (t : Thresholds) (s : Source) (r : Rule) : List LogEntry :=
  let count := (r.check t s).length
  if count = 0 then [] else [ruleEntry s.path r count]

/-- The issues of a source. -/
def issues (l : Linter) (s : Source) : List Issue := l.rules.flatMap (·.check l.thresholds s)

/-- Checks a source. -/
def check (l : Linter) (s : Source) : Findings :=
  ⟨l.issues s, l.rules.flatMap (ruleLog l.thresholds s)⟩

end Linter

/-- The issues that all rules report on a source. -/
def lint (t : Thresholds) (s : Source) : List Issue := (Linter.full t).issues s

end ReactLint
