import ReactLint.Issue

/-!
# Plain reports

The issues of one file as plain text: the file-level issues first, in their order, then the others
by line, issues of one line in their order.
-/

namespace ReactLint.Report.Plain

/-- Issues by line; issues of one line keep their order. -/
def byLine (issues : List Issue) : List Issue := issues.mergeSort fun a b => a.line ≤ b.line

/-- The line that divides a report. -/
def rule (mark : Char) : String := String.ofList (List.replicate 80 mark)

/-- The lines of a message, indented. -/
def messageLines (message : String) : List String :=
  (Text.lines message.toList).map fun l => "    " ++ String.ofList l

/-- A file-level issue. -/
def fileBlock (i : Issue) : List String :=
  let severity := i.severity.label
  let category := i.category
  s!"  [{severity}] {category}" :: messageLines i.message ++ [""]

/-- An issue on a line. -/
def lineBlock (i : Issue) : List String :=
  let line := i.line
  let severity := i.severity.label
  let category := i.category
  s!"  Line {line} [{severity}] {category}" :: messageLines i.message ++ [""]

/-- A titled section, left out when it has no issues. -/
def titledPart (title : String) (block : Issue → List String) (issues : List Issue) : List String :=
  let count := issues.length
  if issues.isEmpty then [] else s!"{title} ({count}):" :: rule '-' :: issues.flatMap block

/-- How many issues have a severity. -/
def countOf (s : Severity) (issues : List Issue) : Nat := issues.countP fun i => i.severity = s

/-- The lines of the report on the issues of a file. -/
def reportLines (path : String) (issues : List Issue) : List String :=
  if issues.isEmpty then [s!"\n✓ No issues found in {path}\n"]
  else
    let (whole, inline) := splitIssues issues
    let errors := countOf .error issues
    let warnings := countOf .warn issues
    ["\n" ++ rule '=', s!"Component Lint Report: {path}", rule '=' ++ "\n"] ++
      titledPart "SUMMARY" fileBlock whole ++ titledPart "INLINE" lineBlock (byLine inline) ++
      [s!"\nTotal: {errors} errors, {warnings} warnings", rule '=']

/-- The report on the issues of a file. -/
def report (path : String) (issues : List Issue) : String :=
  "\n".intercalate (reportLines path issues)

end ReactLint.Report.Plain
