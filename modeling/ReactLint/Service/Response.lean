import ReactLint.Report.Markdown
import ReactLint.Service.Request

/-!
# Responses

What the service answers: the result of a check in one of its forms, or a refusal.  Media types and
the words of a failure are FastAPI's (`Service.Framework`).
-/

namespace ReactLint

/-- The notes on one file. -/
structure FileNotes where
  filePath : String
  notes : List Note
  deriving DecidableEq, Repr

/-- An answer of the service. -/
inductive Response where
  /-- The service is up and checks against these thresholds. -/
  | health (thresholds : Thresholds)
  /-- The notes on one file, with the count of each category. -/
  | notes (notes : List Note) (summary : List (String × Nat))
  /-- The notes on one file as Markdown. -/
  | markdown (text : String)
  /-- The notes on several files. -/
  | batch (files : List FileNotes)
  /-- The body of the request cannot be read. -/
  | invalid (faults : List Fault)
  /-- The request is refused. -/
  | refused (status : Nat) (detail : String)
  /-- The request belongs to the same path without the slashes at its end. -/
  | redirected
  /-- The service could not answer. -/
  | failed

namespace Response

/-- The status code of an answer. -/
def status : Response → Nat
  | health .. | notes .. | markdown .. | batch .. => 200
  | invalid .. => 422
  | refused status _ => status
  | redirected => 307
  | failed => 500

/-- The media type of an answer. -/
def mediaType : Response → String
  | markdown .. => textType "markdown"
  | redirected => ""
  | failed => textType "plain"
  | _ => jsonType

/-- The text of an answer, none when the answer is in JSON notation. -/
def text? : Response → Option String
  | markdown text => some text
  | redirected => some ""
  | failed => some failureText
  | _ => none

/-- Whether the answer can be written: a fault shows what was found.  The result of a check is made
of characters alone, so it always can; for a request with an ill-formed text this says nothing. -/
def isWritable : Response → Bool
  | invalid faults => faults.all fun f => f.found.isWritable
  | _ => true

/-- The answer that goes out, which is a failure when it cannot be written. -/
def orFailed (r : Response) : Response := if r.isWritable then r else failed

/-- The notes with the count of each category. -/
def ofNotes (ns : List Note) : Response := .notes ns (summarize (ns.map Note.category))

end Response

end ReactLint
