import ReactLint.Proofs.Service.Kept

/-!
# One check by three ways

A file can be sent to be checked alone, alone with the answer as Markdown, or together with others.
The three ways read different bodies and go through different code, and they agree.

**Bodies.**  `checkBody` asks for one file and `batchBody` for several, with the same limits
replaced.  What is read from them is what was put in (`check_checkBody`, `batch_batchBody`).

**Answers.**  `plan_post` follows a body from its address to the route, and `planCheck_code` from
there to the file.  Each of the three answers then comes from the same notes on the file.
-/

namespace ReactLint

namespace Request

/-- The members of a body that tell which limits are replaced, if any. -/
def thresholdsMember : Option Value → List (Text × Value)
  | none => []
  | some v => [("thresholds".toList, v)]

/-- The members that tell a file and its code. -/
def fileMembers (f : CodeFile) : List (Text × Value) :=
  [("code".toList, .text f.code), ("filename".toList, .text f.fileName)]

/-- The body that asks for one file to be checked. -/
def checkBody (thresholds : Option Value) (f : CodeFile) : Value :=
  .object (fileMembers f ++ thresholdsMember thresholds)

/-- The body that asks for several files to be checked. -/
def batchBody (thresholds : Option Value) (files : List CodeFile) : Value :=
  .object (("files".toList, .list (files.map fun f => .object (fileMembers f))) ::
    thresholdsMember thresholds)

lemma codeFiles_list (place : List BodyStep) (files : List CodeFile) :
    codeFiles place (some (.list (files.map fun f => .object (fileMembers f)))) = .ok files := by
  -- the places count up, so the induction on the files is for any number to start from
  have hfrom : ∀ n, Checked.all (((files.map fun f => Value.object (fileMembers f)).zipIdx n).map
      fun p => codeFile (place ++ [.index p.2]) p.1) = .ok files := by
    induction files with
    | nil => exact fun n => rfl
    | cons f rest ih =>
        intro n
        rw [List.map_cons, List.zipIdx_cons, List.map_cons, Checked.all, ih]
        rfl
  exact hfrom 0

variable {thresholds : Option Value} {o : Overrides}

lemma check_checkBody (h : overrides (fieldPlace "thresholds") thresholds = .ok o) (f : CodeFile) :
    check (checkBody thresholds f) = .ok ⟨some f.code, some f.fileName, none, o⟩ := by
  cases thresholds with
  | none =>
      obtain rfl := Except.ok.inj h
      rfl
  | some v =>
      change (Checked.both _ (Checked.both _ (Checked.both _
        (overrides (fieldPlace "thresholds") (some v))))).map _ = _
      rw [h]
      rfl

lemma batch_batchBody (h : overrides (fieldPlace "thresholds") thresholds = .ok o)
    (files : List CodeFile) : batch (batchBody thresholds files) = .ok ⟨files, o⟩ := by
  have hfiles := codeFiles_list (fieldPlace "files") files
  cases thresholds with
  | none =>
      obtain rfl := Except.ok.inj h
      change (Checked.both (codeFiles (fieldPlace "files") (some (.list _))) _).map _ = _
      rw [hfiles]
      rfl
  | some v =>
      change (Checked.both (codeFiles (fieldPlace "files") (some (.list _)))
        (overrides (fieldPlace "thresholds") (some v))).map _ = _
      rw [hfiles, h]
      rfl

end Request

namespace Session

/-- A body is sent to a route. -/
def post (route : Route) (body : Value) : Move :=
  .request ⟨"POST".toList, route.path.toList, .value body⟩

/-- The notes on a file that is checked against thresholds. -/
def notesOn (t : Thresholds) (f : CodeFile) : List Note :=
  (lint t ⟨f.fileName, f.code⟩).map (Issue.toNote (String.ofList f.fileName))

/-- The notes on a file of several. -/
def fileNotes (t : Thresholds) (f : CodeFile) : FileNotes :=
  ⟨String.ofList f.fileName, notesOn t f⟩

variable {s : Session}

lemma Route.read_path (route : Route) :
    Address.read route.path.toList = .ok route.path.toList := by
  cases route <;> decide

lemma Route.ofPath?_path (route : Route) : ofPath? route.path.toList = some route := by
  cases route <;> decide

lemma plan_post (s : Session) {route : Route} (h : route.method = "POST") (body : Value) :
    s.plan (post route body)
      = (s.planRoute (.value body) route).map fun reply => (.ok (.response reply.1), reply.2) := by
  have hmethod : Text.upper "POST".toList = "POST".toList := by decide
  have hreceived : ∀ r, received "POST".toList r = .ok (.response r) := fun r => rfl
  simp only [post, plan, route.read_path, hmethod, planRequest, route.ofPath?_path, h, hreceived,
    beq_self_eq_true, if_true]

lemma planCheck_code (s : Session) (render : Labelled → Response) {f : CodeFile}
    (h : f.fileName ≠ []) (o : Overrides) (t : Thresholds) :
    ((s.planCheck render ⟨some f.code, some f.fileName, none, o⟩).under t).1
      = render ⟨f.fileName, notesOn (t.replaced o) f⟩ := by
  have htarget : s.target ⟨some f.code, some f.fileName, none, o⟩
      = .ok (f.fileName, fun l => l.check ⟨f.fileName, f.code⟩) := by
    simp [target, Option.filter, h]
  rw [planCheck, htarget]
  rfl

lemma planBatch_under (r : BatchRequest) (t : Thresholds) :
    ((planBatch r).under t).1 = .batch (r.files.map (fileNotes (t.replaced r.overrides))) := rfl

/-- A body that is read as a request for one file is answered as that request. -/
lemma post_checked (hs : s.Sound) {body : Value} {r : CheckRequest}
    (hbody : Request.check body = .ok r) (route : Route) (render : Labelled → Response)
    (hpost : route.method = "POST")
    (hroute : ∀ b, s.planRoute b route = planBody b Request.check (s.planCheck render)) :
    (s.move (post route body)).result
      = .ok (.response ((s.planCheck render r).under s.thresholds.result).1) := by
  rw [move_result hs, s.plan_post hpost, Plan.under_map, hroute, planBody, Body.read]
  simp only [hbody]

section Answers

variable {thresholds : Option Value} {o : Overrides}
  (h : Request.overrides (Request.fieldPlace "thresholds") thresholds = .ok o)

include h

lemma post_batch (hs : s.Sound) (files : List CodeFile) :
    (s.move (post .batch (Request.batchBody thresholds files))).result
      = .ok (.response (.batch (files.map (fileNotes (s.thresholds.result.replaced o))))) := by
  rw [move_result hs, s.plan_post rfl, Plan.under_map, planRoute, planBody, Body.read]
  simp only [Request.batch_batchBody h]
  rw [planBatch_under]

/-- A file that is sent alone is answered from its notes, in whatever form. -/
lemma post_one (hs : s.Sound) {f : CodeFile} (hf : f.fileName ≠ []) (route : Route)
    (render : Labelled → Response) (hpost : route.method = "POST")
    (hroute : ∀ b, s.planRoute b route = planBody b Request.check (s.planCheck render)) :
    (s.move (post route (Request.checkBody thresholds f))).result
      = .ok (.response (render ⟨f.fileName, notesOn (s.thresholds.result.replaced o) f⟩)) := by
  rw [post_checked hs (Request.check_checkBody h f) route render hpost hroute,
    s.planCheck_code render hf]

end Answers

/-- **The three ways to check a file agree.**  Take the service through any moves, limits that can
be replaced, and files with names.  Sent together, each file is answered under its name with the
notes on it.  Sent alone, it is answered with the same notes and the count of each of their
categories, and as Markdown with the report on the same notes at the time of the service.  Files
sent in another order are answered in that order, each with what it was answered with before. -/
theorem check_endpoints_agree (environment : Environment) (tree : FileTree) (now : Moment)
    (moves : List Move) (thresholds : Option Value) (o : Overrides)
    (hthresholds : Request.overrides (Request.fieldPlace "thresholds") thresholds = .ok o)
    (files : List CodeFile) (hnames : ∀ f ∈ files, f.fileName ≠ []) :
    let s := (⟨environment, none, tree, now⟩ : Session).after moves
    ∃ answer : List FileNotes,
      (s.move (post .batch (Request.batchBody thresholds files))).result
        = .ok (.response (.batch answer)) ∧
      List.Forall₂ (fun f entry =>
        entry.filePath = String.ofList f.fileName ∧
        entry.notes = notesOn (s.thresholds.result.replaced o) f ∧
        (s.move (post .check (Request.checkBody thresholds f))).result
          = .ok (.response (.notes entry.notes (summarize (entry.notes.map Note.category)))) ∧
        (s.move (post .report (Request.checkBody thresholds f))).result
          = .ok (.response (.markdown
              (Report.Markdown.report (String.ofList f.fileName) now entry.notes))))
        files answer ∧
      ∀ files', files'.Perm files → ∃ answer' : List FileNotes,
        (s.move (post .batch (Request.batchBody thresholds files'))).result
          = .ok (.response (.batch answer')) ∧
        (files'.zip answer').Perm (files.zip answer) := by
  intro s
  have hstart : (⟨environment, none, tree, now⟩ : Session).Sound := sound_of_none rfl
  have hs : s.Sound := hstart.after moves
  have hnow : s.now = now := now_after hstart moves
  refine ⟨_, post_batch hthresholds hs files, ?_, fun files' hperm => ?_⟩
  · rw [List.forall₂_map_right_iff, List.forall₂_same]
    intro f hf
    refine ⟨rfl, rfl, ?_, ?_⟩
    · exact post_one hthresholds hs (hnames f hf) .check (fun l => .ofNotes l.notes) rfl
        fun b => rfl
    · rw [← hnow]
      exact post_one hthresholds hs (hnames f hf) .report (fun l => .markdown
        (Report.Markdown.report (String.ofList l.path) s.now l.notes)) rfl fun b => rfl
  · refine ⟨_, post_batch hthresholds hs files', ?_⟩
    rw [← List.map_prod_left_eq_zip, ← List.map_prod_left_eq_zip]
    exact hperm.map _

/-- Two files with the same code, one limit replaced, in a service whose variables have set that
limit and were read before it was unset. -/
theorem check_endpoints_agree_two_files :
    let name := "LINT_MAX_PARAMS".toList
    let s := (⟨⟨[]⟩, none, ⟨[], []⟩, ⟨2024, 1, 2, 3, 4, 5⟩⟩ : Session).after
      [.setVariable name ['5'], .askThresholds, .unsetVariable name]
    let thresholds : Value := .object [("max_params".toList, .integer 2)]
    let o : Overrides := fun l => if l = .params then some 2 else none
    let files : List CodeFile := [⟨"x".toList, "a.tsx".toList⟩, ⟨"x".toList, "b.tsx".toList⟩]
    Request.overrides (Request.fieldPlace "thresholds") (some thresholds) = .ok o ∧
      (∀ f ∈ files, f.fileName ≠ []) ∧
      ∃ a b : FileNotes,
        (s.move (post .batch (Request.batchBody (some thresholds) files))).result
          = .ok (.response (.batch [a, b])) ∧
        a.filePath = "a.tsx" ∧ b.filePath = "b.tsx" ∧
        (s.move (post .check (Request.checkBody (some thresholds)
            ⟨"x".toList, "b.tsx".toList⟩))).result
          = .ok (.response (.notes b.notes (summarize (b.notes.map Note.category)))) := by
  intro name s thresholds o files
  have hthresholds :
      Request.overrides (Request.fieldPlace "thresholds") (some thresholds) = .ok o := by
    refine congrArg Except.ok (funext fun l => ?_)
    cases l <;> rfl
  have hnames : ∀ f ∈ files, f.fileName ≠ [] := by simp [files]
  obtain ⟨answer, hbatch, hfiles, -⟩ := check_endpoints_agree ⟨[]⟩ ⟨[], []⟩ ⟨2024, 1, 2, 3, 4, 5⟩
    [.setVariable name ['5'], .askThresholds, .unsetVariable name] _ o hthresholds files hnames
  change List.Forall₂ _ [_, _] answer at hfiles
  obtain _ | ⟨ha, _ | ⟨hb, _ | _⟩⟩ := hfiles
  exact ⟨hthresholds, hnames, _, _, hbatch, ha.1, hb.1, hb.2.2.1⟩

end Session

end ReactLint
