import ReactLint.FileTree
import ReactLint.Service.Address
import ReactLint.Service.Environment
import ReactLint.Service.Response

/-!
# Sessions

The service from its start on: the environment it runs in, the files it can reach, and the
thresholds it has read.  Thresholds are read from the environment when they are first needed and
then kept, whatever happens to the environment, until they are cleared.

A *move* is anything that happens to the service.  `Session.move` gives its answer, what was logged,
and the session after it.
-/

namespace ReactLint

open Text

/-- The state of the service. -/
structure Session where
  environment : Environment
  /-- The thresholds read last, if any. -/
  kept : Option Thresholds
  files : FileTree
  /-- The moment that reports are made at. -/
  now : Moment

/-- A result, what was logged on the way, and the session after it. -/
structure Outcome (α : Type) where
  result : α
  log : List LogEntry
  session : Session

namespace Session

/-- The thresholds in effect.  They are read from the environment unless they are kept. -/
def thresholds (s : Session) : Outcome Thresholds :=
  match s.kept with
  | some t => ⟨t, [], s⟩
  | none =>
    let t := s.environment.thresholds
    ⟨t, s.environment.thresholdLog, { s with kept := some t }⟩

/-- The thresholds in effect with some limits replaced. -/
def resolve (s : Session) (overrides : Overrides) : Outcome (Except OptionError Thresholds) :=
  let base := s.thresholds
  ⟨base.result.override overrides, base.log, base.session⟩

/-! ## Checks -/

/-- The log entry on a file that has been checked. -/
def checkedEntry (path : Text) (count : Nat) : LogEntry :=
  let path := String.ofList path
  ⟨.info, .checker, s!"{path}: {count} issue(s)"⟩

/-- Notes on one file and the path that they are filed under. -/
structure Labelled where
  path : Text
  notes : List Note

/-- The notes that findings give on a file. -/
def label (path : Text) (found : Findings) : Labelled :=
  ⟨path, found.issues.map (Issue.toNote (String.ofList path))⟩

/-- Why a check is refused. -/
inductive Refusal where
  | relativePath
  | noSuchFile (path : Text)
  /-- The path is too long to ask for. -/
  | unreachable
  | nothingToCheck
  | badThresholds (cause : OptionError)

/-- The answer to a refused check. -/
def Refusal.response : Refusal → Response
  | relativePath => .refused 400 "file_path must be absolute"
  | noSuchFile path =>
    let path := String.ofList path
    .refused 404 s!"File not found: {path}"
  | unreachable => .failed
  | nothingToCheck => .refused 400 "Provide either (code + filename) or file_path."
  | badThresholds cause => .refused 422 cause.message

/-- Checks one file with the thresholds in effect, some limits replaced. -/
def checkOne (s : Session) (overrides : Overrides) (path : Text) (run : Linter → Findings) :
    Outcome (Except Refusal Labelled) :=
  let limits := s.resolve overrides
  match limits.result with
  | .error e => ⟨.error (.badThresholds e), limits.log, limits.session⟩
  | .ok t =>
    let found := run (.full t)
    ⟨.ok (label path found),
      limits.log ++ found.log ++ [checkedEntry path found.issues.length], limits.session⟩

/-- Checks what a request asks for: the file at its path, or the code that it brings. -/
def check (s : Session) (r : CheckRequest) : Outcome (Except Refusal Labelled) :=
  match r.filePath.filter (!·.isEmpty), r.code, r.fileName.filter (!·.isEmpty) with
  | some written, _, _ =>
    let path := Path.ofText written
    if !path.isAbsolute then ⟨.error .relativePath, [], s⟩
    else match s.files.has? path with
      | none => ⟨.error .unreachable, [], s⟩
      | some false => ⟨.error (.noSuchFile written), [], s⟩
      | some true => s.checkOne r.overrides path.toText fun l => l.checkFile s.files path
  | none, some code, some name => s.checkOne r.overrides name fun l => l.check ⟨name, code⟩
  | none, _, _ => ⟨.error .nothingToCheck, [], s⟩

/-- Answers a check with what `render` makes of its notes. -/
def answerCheck (s : Session) (render : Labelled → Response) (r : CheckRequest) :
    Outcome Response :=
  let o := s.check r
  match o.result with
  | .ok l => ⟨render l, o.log, o.session⟩
  | .error e => ⟨e.response, o.log, o.session⟩

/-- Answers a check of several files, all with the same thresholds. -/
def answerBatch (s : Session) (r : BatchRequest) : Outcome Response :=
  let limits := s.resolve r.overrides
  match limits.result with
  | .error e => ⟨(Refusal.badThresholds e).response, limits.log, limits.session⟩
  | .ok t =>
    let found := r.files.map fun f => (f.fileName, (Linter.full t).check ⟨f.fileName, f.code⟩)
    ⟨.batch (found.map fun (name, f) => ⟨String.ofList name, (label name f).notes⟩),
      limits.log ++ found.flatMap (·.2.log), limits.session⟩

/-! ## Requests -/

/-- Where a request may go. -/
inductive Route where
  | health
  | check
  | report
  | batch
  deriving DecidableEq, Repr

namespace Route

/-- All routes. -/
def all : List Route := [health, check, report, batch]

/-- The path of a route. -/
def path : Route → String
  | health => "/health"
  | check => "/check"
  | report => "/check/report"
  | batch => "/check/batch"

/-- The method of a route. -/
def method : Route → String
  | health => "GET"
  | _ => "POST"

/-- Whether a path is that of the route.  A line feed at its end does not count, since it does not
in the patterns that FastAPI makes of paths. -/
def matchesPath (r : Route) (path : Text) : Bool :=
  path == r.path.toList || path == r.path.toList ++ ['\n']

/-- The route of a path. -/
def ofPath? (path : Text) : Option Route := all.find? fun r => r.matchesPath path

end Route

/-- A request. -/
structure HttpRequest where
  method : Text
  address : Text
  body : Body

/-- The answer to a request whose body holds no value. -/
def bodyResponse : BodyError → Response
  | .missing => .invalid [⟨.missing, Request.bodyPlace, .null⟩]
  | .malformed => .invalid [⟨.notJson, Request.bodyPlace, .object []⟩]
  | .unreadable => .refused 400 Response.unreadableBodyText

/-- Reads a body and goes on with what it asks for. -/
def withBody {α : Type} (s : Session) (b : Body) (read : Value → Checked α)
    (answer : α → Outcome Response) : Outcome Response :=
  match b.read with
  | .error e => ⟨bodyResponse e, [], s⟩
  | .ok v =>
    match read v with
    | .error faults => ⟨(Response.invalid faults).orFailed, [], s⟩
    | .ok a => answer a

/-- Answers a request that has found its route. -/
def follow (s : Session) (b : Body) : Route → Outcome Response
  | .health =>
    let t := s.thresholds
    ⟨.health t.result, t.log, t.session⟩
  | .check => s.withBody b Request.check (s.answerCheck fun l => .ofNotes l.notes)
  | .report => s.withBody b Request.check (s.answerCheck fun l =>
      .markdown (Report.Markdown.report (String.ofList l.path) s.now l.notes))
  | .batch => s.withBody b Request.batch s.answerBatch

/-- The answer to a request that has found no route.  FastAPI tries the path without slashes at its
end, and leads there when that has a route. -/
def astray (path : Text) : Response :=
  if path.getLast? == some '/' && (Route.ofPath? (dropEndWhile (· == '/') path)).isSome then
    .redirected
  else .refused 404 Response.noRouteText

/-- Answers a request for a path. -/
def request (s : Session) (method path : Text) (b : Body) : Outcome Response :=
  match Route.ofPath? path with
  | none => ⟨astray path, [], s⟩
  | some route =>
    if route.method.toList == method then s.follow b route
    else ⟨.refused 405 Response.otherMethodText, [], s⟩

/-! ## Moves -/

/-- Anything that happens to the service. -/
inductive Move where
  | setVariable (name value : Text)
  | unsetVariable (name : Text)
  | clearThresholds
  | writeFile (path : Path) (node : FileNode)
  | removeFile (path : Path)
  | askHost
  | askPort
  | askLogLevel
  | askThresholds
  /-- The thresholds are asked for with limits replaced as a request may replace them. -/
  | resolve (overrides : Option Value)
  /-- The thresholds are announced. -/
  | announce
  /-- The service comes up, which announces the thresholds, and goes down. -/
  | upAndDown
  | launch
  | request (r : HttpRequest)

/-- The answer to a move. -/
inductive Answer where
  | done
  | text (t : Text)
  | number (n : Int)
  | thresholds (t : Thresholds)
  | listening (host : Text) (port : Int) (logLevel : Text)
  | response (r : Response)

/-- Why a move has no answer. -/
inductive Failure where
  | badVariable (cause : Environment.VariableError)
  | badOption (cause : OptionError)
  /-- Limits cannot be replaced as asked for. -/
  | badOverrides (faults : List Fault)
  | badAddress (cause : AddressError)
  /-- An answer in JSON notation has no content, since only its head was asked for. -/
  | noContent

/-- What is said about a move without an answer. -/
def Failure.message : Failure → String
  | badVariable cause => cause.message
  | badOption cause => cause.message
  | badOverrides faults => Fault.report "Thresholds" faults
  | badAddress cause => cause.message
  | noContent => noContentText

/-- The lines that announce the thresholds; the first two when there is no file of settings. -/
def announcement (s : Session) (t : Thresholds) : Text :=
  let limits := ", ".intercalate (Limit.all.map fun l =>
    let name := l.option
    let value := t.get l
    s!"{name}={value}")
  let warning :=
    if s.files.has? (Path.ofText ".env".toList) == some true then ""
    else "⚠️  WARNING: .env file not found. Using default lint thresholds.\n" ++
      "   Create .env from .env.example and set LINT_* variables to override them.\n"
  (warning ++ s!"Lint thresholds: {limits}\n").toList

/-- Announces the thresholds. -/
def announce (s : Session) : Outcome Text :=
  let t := s.thresholds
  ⟨s.announcement t.result, t.log, t.session⟩

/-- An outcome whose result is turned into an answer. -/
def answered {α : Type} (f : α → Except Failure Answer) (o : Outcome α) :
    Outcome (Except Failure Answer) :=
  ⟨f o.result, o.log, o.session⟩

/-- The answer as it arrives: only its head when no more was asked for. -/
def received (method : Text) (r : Response) : Except Failure Answer :=
  if method == "HEAD".toList && r.text?.isNone then .error .noContent else .ok (.response r)

/-- Sends a request to the path that its address leads to. -/
def send (s : Session) (r : HttpRequest) : Outcome (Except Failure Answer) :=
  match Address.read r.address with
  | .error e => ⟨.error (.badAddress e), [], s⟩
  | .ok path =>
    let method := upper r.method
    answered (received method) (s.request method path r.body)

/-- The answer to a question for thresholds. -/
def resolved : Except OptionError Thresholds → Except Failure Answer
  | .ok t => .ok (.thresholds t)
  | .error e => .error (.badOption e)

/-- What a move does. -/
def move (s : Session) : Move → Outcome (Except Failure Answer)
  | .setVariable name value =>
    match Environment.variableError? name value with
    | some e => ⟨.error (.badVariable e), [], s⟩
    | none => ⟨.ok .done, [], { s with environment := s.environment.set name value }⟩
  | .unsetVariable name => ⟨.ok .done, [], { s with environment := s.environment.unset name }⟩
  | .clearThresholds => ⟨.ok .done, [], { s with kept := none }⟩
  | .writeFile path node => ⟨.ok .done, [], { s with files := s.files.write path node }⟩
  | .removeFile path => ⟨.ok .done, [], { s with files := s.files.remove path }⟩
  | .askHost => ⟨.ok (.text s.environment.host), [], s⟩
  | .askPort => ⟨.ok (.number s.environment.port), [], s⟩
  | .askLogLevel => ⟨.ok (.text s.environment.logLevel), [], s⟩
  | .askThresholds => answered (fun t => .ok (.thresholds t)) s.thresholds
  | .resolve overrides =>
    match Request.overrides [] overrides with
    | .error faults => ⟨.error (.badOverrides faults), [], s⟩
    | .ok overrides => answered resolved (s.resolve overrides)
  | .announce | .upAndDown => answered (fun t => .ok (.text t)) s.announce
  | .launch =>
    let e := s.environment
    ⟨.ok (.listening e.host e.port (lower e.logLevel)), [], s⟩
  | .request r => s.send r

/-- The outcomes of moves made one after the other. -/
def run (s : Session) : List Move → List (Outcome (Except Failure Answer))
  | [] => []
  | m :: rest =>
    let o := s.move m
    o :: run o.session rest

end Session

end ReactLint
