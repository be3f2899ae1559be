import ReactLint.Issue
import ReactLint.Moment
import ReactLint.Text.Blank
import ReactLint.Text.Case

/-!
# Markdown reports

The issues of one file as Markdown for a review comment.  A *note* is an issue as the service gives
it out: its severity is a text, and it names its file.
-/

namespace ReactLint

open Text

/-- An issue as the service gives it out. -/
structure Note where
  line : Int
  message : String
  severity : String
  category : String
  fileLevel : Bool
  filePath : Option String
  deriving DecidableEq, Repr

/-- The note of an issue in the file `path`. -/
def Issue.toNote (path : String) (i : Issue) : Note :=
  ⟨i.line, i.message, i.severity.label, i.category, i.fileLevel, some path⟩

namespace Report.Markdown

/-- A name with dashes and underscores as words in title case. -/
def titleWords (t : Text) : Text :=
  title (lower (trim (replaceChar '_' ' ' (replaceChar '-' ' ' t))))

/-- The words of a category or severity as a heading shows them. -/
def titleCase (s : String) : String := String.ofList (titleWords s.toList)

/-- Notes by line; notes of one line keep their order. -/
def byLine (notes : List Note) : List Note := notes.mergeSort fun a b => a.line ≤ b.line

/-- A file-level note. -/
def fileBlock (n : Note) : List String :=
  let category := titleCase n.category
  let severity := titleCase n.severity
  [s!"**{category} · {severity}**", "", n.message, ""]

/-- A note on a line. -/
def lineBlock (n : Note) : List String :=
  let line := n.line
  let category := titleCase n.category
  let severity := titleCase n.severity
  [s!"**Line {line} · {category} · {severity}**", "", n.message, ""]

/-- A titled section, left out when it has no notes. -/
def titledPart (title : String) (block : Note → List String) (notes : List Note) : List String :=
  if notes.isEmpty then [] else s!"## {title}" :: "" :: notes.flatMap block

/-- The lines that every report starts with. -/
def header (path : String) (now : Moment) (notes : List Note) : List String :=
  let now := now.toText
  let count := notes.length
  let errors := notes.countP fun n => n.severity = "error"
  let warnings := notes.countP fun n => n.severity = "warn"
  [s!"# Results: {path}", "", s!"Generated: {now}", "",
    s!"**{count}** issue(s) found ({errors} error(s), {warnings} warning(s)).", ""]

/-- The lines of the report on the notes of a file, made at the moment `now`. -/
def reportLines (path : String) (now : Moment) (notes : List Note) : List String :=
  let (whole, inline) := notes.partition Note.fileLevel
  header path now notes ++
    if notes.isEmpty then ["No issues found.", ""]
    else titledPart "Summary" fileBlock whole ++ titledPart "Issues" lineBlock (byLine inline)

/-- The report on the notes of a file, made at the moment `now`. -/
def report (path : String) (now : Moment) (notes : List Note) : String :=
  "\n".intercalate (reportLines path now notes)

end Report.Markdown

end ReactLint
