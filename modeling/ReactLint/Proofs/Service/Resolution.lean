import ReactLint.Proofs.Service.Kept

/-!
# Resolving thresholds never fails

Three readers judge a limit: the one of variables, the one of requests, and the one of options,
which a resolution goes through last and which is the only one that can refuse it.  They have been
brought together in `override_eq`; this file draws the consequences for the service.

**What a request may ask for.**  The replacements that a request can bring are those whose limits
are positive, all of them and no others (`exists_overrides_iff`).

**What comes out.**  A resolution has each limit from the request if it is there and from the
thresholds in effect otherwise, and leaves these as they are.

**What is never answered.**  A refusal with status 422 is the answer to a resolution that fails, so
no request gets one (`planRequest_under_ne`).
-/

namespace ReactLint

/-! ## Replacements in a request -/

/-- A list without faults is checked without a fault. -/
lemma Checked.all_map_ok {α : Type} (xs : List α) : all (xs.map .ok) = .ok xs := by
  induction xs with
  | nil => rfl
  | cons x xs ih => simp [all, ih, both, Except.map]

namespace Request

/-- The value that tells of every limit by what it is replaced. -/
def overridesValue (o : Overrides) : Value :=
  .object (Limit.all.map fun l => (l.option.toList, (o l).elim .null .integer))

/-- A positive limit, or none, is read back from the value that tells it. -/
lemma limit_elim {m : Option Int} (hm : ∀ n ∈ m, 0 < n) (place : List BodyStep) :
    limit place (some (m.elim .null .integer)) = .ok m := by
  cases m with
  | none => rfl
  | some n =>
      have hpos : ¬ n ≤ 0 := Int.not_le.mpr (hm n rfl)
      simp [limit, integer, hpos]

/-- **Every choice of positive replacements is brought by some request.** -/
lemma overrides_overridesValue {o : Overrides} (ho : ∀ l, ∀ n ∈ o l, 0 < n)
    (place : List BodyStep) : overrides place (some (overridesValue o)) = .ok o := by
  have hmember (l : Limit) : Value.member? l.option.toList
      (Limit.all.map fun l => (l.option.toList, (o l).elim .null .integer))
        = some ((o l).elim .null .integer) := by
    cases l <;> rfl
  have hlimits : Checked.all (Limit.all.map fun l =>
      (limit (place ++ [.field l.option.toList]) (Value.member? l.option.toList
        (Limit.all.map fun l => (l.option.toList, (o l).elim .null .integer)))).map (l, ·))
      = .ok (Limit.all.map fun l => (l, o l)) := by
    have hall := Checked.all_map_ok (Limit.all.map fun l => (l, o l))
    rw [List.map_map] at hall
    rw [← hall]
    congr 1
    refine List.map_congr_left ?_
    intro l _
    rw [hmember, limit_elim (ho l)]
    rfl
  have hunknown : unknownLimits place
      (Limit.all.map fun l => (l.option.toList, (o l).elim .null .integer)) = .ok () := rfl
  simp only [overrides, overridesValue, hlimits, hunknown]
  refine congrArg Except.ok (funext ?_)
  intro l
  cases l <;> rfl

/-- **The replacements that a request can bring** are those with positive limits. -/
lemma exists_overrides_iff {o : Overrides} (place : List BodyStep) :
    (∃ v, overrides place v = .ok o) ↔ ∀ l, ∀ n ∈ o l, 0 < n := by
  constructor
  · rintro ⟨v, hv⟩ l
    exact overrides_positive hv l
  · intro ho
    exact ⟨_, overrides_overridesValue ho place⟩

end Request

namespace Session

variable {s : Session}

/-! ## Refusals with status 422 -/

/-- Finding the file of a request has failures of its own, and bad thresholds are none of them. -/
lemma target_ne_badThresholds (s : Session) (r : CheckRequest) (cause : OptionError) :
    s.target r ≠ .error (.badThresholds cause) := by
  intro h
  rw [target] at h
  split at h
  · dsimp only at h
    split_ifs at h
    · cases h
    · split at h <;> cases h
  · cases h
  · cases h

lemma check_ne_badThresholds (hs : s.Sound) {r : CheckRequest}
    (hr : ∀ l, ∀ n ∈ r.overrides l, 0 < n) (cause : OptionError) :
    (s.check r).result ≠ .error (.badThresholds cause) := by
  rw [check_eq_target]
  cases htarget : s.target r with
  | error e =>
      intro h
      injection h with he
      exact s.target_ne_badThresholds r cause (he ▸ htarget)
  | ok found => simp [checkOne, resolve_eq hs hr]

lemma planCheck_under_ne (s : Session) {render : Labelled → Response}
    (hrender : ∀ l, (render l).status = 200) (r : CheckRequest) (t : Thresholds) (detail : String) :
    ((s.planCheck render r).under t).1 ≠ .refused 422 detail := by
  rw [planCheck]
  cases htarget : s.target r with
  | error e =>
      cases e with
      | badThresholds cause => exact absurd htarget (s.target_ne_badThresholds r cause)
      | _ => simp [Plan.under, Refusal.response]
  | ok found =>
      intro h
      have hstatus := hrender (label found.1 (found.2 (.full (t.replaced r.overrides))))
      rw [show render _ = _ from h] at hstatus
      simp [Response.status] at hstatus

/-- A body that cannot be read is answered by its faults, or refused with another status. -/
lemma planBody_under_ne {α : Type} (b : Body) (read : Value → Checked α) {next : α → Plan Reply}
    {t : Thresholds} {detail : String} (hnext : ∀ a, ((next a).under t).1 ≠ .refused 422 detail) :
    ((planBody b read next).under t).1 ≠ .refused 422 detail := by
  rw [planBody]
  cases b.read with
  | error e => cases e <;> simp [Plan.under, bodyResponse]
  | ok v =>
      dsimp only
      cases read v with
      | error faults =>
          rw [Plan.under, Response.orFailed]
          split_ifs <;> simp
      | ok a => exact hnext a

/-- **No request is refused with status 422**: what follows a body that was read is a check, whose
thresholds resolve. -/
lemma planRequest_under_ne (s : Session) (method path : Text) (b : Body) (t : Thresholds)
    (detail : String) : ((s.planRequest method path b).under t).1 ≠ .refused 422 detail := by
  rw [planRequest]
  cases Route.ofPath? path with
  | none =>
      rw [Plan.under, astray]
      split_ifs <;> simp
  | some route =>
      dsimp only
      split_ifs
      · cases route with
        | health => simp [planRoute, Plan.under]
        | check =>
            exact planBody_under_ne b _ fun r => s.planCheck_under_ne (fun _ => rfl) r t detail
        | report =>
            exact planBody_under_ne b _ fun r => s.planCheck_under_ne (fun _ => rfl) r t detail
        | batch => exact planBody_under_ne b _ fun r => by simp [planBatch, Plan.under]
      · simp [Plan.under]

/-- The same of a request that is made in a session. -/
lemma request_ne_refused (hs : s.Sound) (r : HttpRequest) (detail : String) :
    (s.move (.request r)).result ≠ .ok (.response (.refused 422 detail)) := by
  intro h
  rw [move_result hs, plan] at h
  cases hpath : Address.read r.address with
  | error e => simp [hpath, Plan.under] at h
  | ok path =>
      simp only [hpath, Plan.under_map, received] at h
      split_ifs at h
      injection h with hanswer
      injection hanswer with hresponse
      exact s.planRequest_under_ne _ path r.body _ detail hresponse

/-! ## Resolutions -/

/-- Thresholds that were kept came from some environment, so they are positive. -/
lemma sound_of_cached (environment : Environment) (cached : Option Environment) (files : FileTree)
    (now : Moment) :
    Sound ⟨environment, cached.map Environment.thresholds, files, now⟩ := by
  intro t ht
  obtain ⟨e, -, rfl⟩ := Option.map_eq_some_iff.mp ht
  exact e.thresholds_positive

lemma thresholds_of_cached (environment : Environment) (cached : Option Environment)
    (files : FileTree) (now : Moment) :
    (⟨environment, cached.map Environment.thresholds, files, now⟩ : Session).thresholds.result
      = (cached.getD environment).thresholds := by
  cases cached <;> rfl

/-- **Resolving thresholds never fails and goes limit by limit.**  Take any variables, and a service
that keeps nothing or what some variables have given it.  Replacements that a request can bring, and
these are all with positive limits, resolve to thresholds with each limit from the request if it is
there and from the thresholds in effect otherwise, and all of them positive.  The thresholds in
effect stay what they are, and are what a resolution without replacements gives next.  So no check
is refused for its thresholds, no batch is, and no request is answered by a refusal with status
422. -/
theorem resolve_never_fails (environment : Environment) (cached : Option Environment)
    (files : FileTree) (now : Moment) :
    let s : Session := ⟨environment, cached.map Environment.thresholds, files, now⟩
    let base := (cached.getD environment).thresholds
    s.thresholds.result = base ∧
    (∀ place o, (∃ v, Request.overrides place v = .ok o) ↔ ∀ l, ∀ n ∈ o l, 0 < n) ∧
    (∀ place v o, Request.overrides place v = .ok o →
      ∃ t, (s.resolve o).result = .ok t ∧
        (∀ l, t.get l = (o l).getD (base.get l)) ∧ (∀ l, 1 ≤ t.get l) ∧
        (s.resolve o).session = { s with kept := some base } ∧
        ((s.resolve o).session.resolve fun _ => none).result = .ok base) ∧
    (∀ v r, Request.check v = .ok r →
      ∀ cause, (s.check r).result ≠ .error (.badThresholds cause)) ∧
    (∀ v r, Request.batch v = .ok r → (s.answerBatch r).result.status = 200) ∧
    ∀ r detail, (s.move (.request r)).result ≠ .ok (.response (.refused 422 detail)) := by
  intro s base
  have hs : s.Sound := sound_of_cached environment cached files now
  have hbase : s.thresholds.result = base := thresholds_of_cached environment cached files now
  refine ⟨hbase, ?_, ?_, ?_, ?_, ?_⟩
  · intro place o
    exact Request.exists_overrides_iff place
  · intro place v o hv
    have ho := Request.overrides_positive hv
    have hpos : base.Positive := hbase ▸ hs.thresholds
    have hresolve := resolve_eq hs ho
    have hsession : (s.resolve o).session = { s with kept := some base } := by
      rw [hresolve, thresholds_session, hbase]
    refine ⟨base.replaced o, ?_, ?_, ?_, hsession, ?_⟩
    · rw [hresolve, hbase]
    · intro l
      exact base.get_replaced o l
    · intro l
      exact hpos.replaced ho l
    · rw [hsession, resolve, thresholds_of_some rfl, Thresholds.override_eq hpos (by simp),
        Thresholds.replaced_none]
  · intro v r hr cause
    exact check_ne_badThresholds hs (Request.check_overrides hr) cause
  · intro v r hr
    rw [answerBatch_eq hs (Request.batch_overrides hr)]
    rfl
  · intro r detail
    exact request_ne_refused hs r detail

/-- One limit replaced and one left open, in a service that keeps what variables gave before one of
them became unreadable. -/
theorem resolve_never_fails_params :
    let s : Session := ⟨⟨[("LINT_MAX_PARAMS".toList, ['x'])]⟩,
      (some ⟨[("LINT_MAX_PARAMS".toList, ['7'])]⟩ : Option Environment).map Environment.thresholds,
      ⟨[], []⟩, ⟨2024, 1, 2, 3, 4, 5⟩⟩
    let o : Overrides := fun l => if l = .markupLines then some 9 else none
    let v : Value :=
      .object [("max_jsx_lines".toList, .integer 9), ("max_params".toList, .null)]
    Request.overrides [] (some v) = .ok o ∧
      ∃ t, (s.resolve o).result = .ok t ∧ t.markupLines = 9 ∧ t.params = 7 ∧
        (s.resolve o).session.kept.any (·.markupLines = 60) := by
  intro s o v
  have hread : Request.overrides [] (some v) = .ok o := by
    refine congrArg Except.ok (funext ?_)
    intro l
    cases l <;> rfl
  obtain ⟨-, -, hresolve, -⟩ := resolve_never_fails ⟨[("LINT_MAX_PARAMS".toList, ['x'])]⟩
    (some ⟨[("LINT_MAX_PARAMS".toList, ['7'])]⟩) ⟨[], []⟩ ⟨2024, 1, 2, 3, 4, 5⟩
  obtain ⟨t, ht, hget, -, hsession, -⟩ := hresolve [] (some v) o hread
  refine ⟨hread, t, ht, (hget .markupLines).trans (by decide +kernel),
    (hget .params).trans (by decide +kernel), ?_⟩
  rw [hsession]
  decide +kernel

end Session

end ReactLint
