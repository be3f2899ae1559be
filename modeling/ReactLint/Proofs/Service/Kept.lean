import Mathlib.Data.List.DropRight
import ReactLint.Proofs.Service.Plan

/-!
# What is kept over a session

The thresholds are read from the variables when they are first needed and kept until they are
cleared.  This file follows them through any sequence of moves.

**One move.**  `kept_move` says what is kept after a move: nothing once it was cleared, the
thresholds in effect once they were read, and otherwise what was kept before.  Variables change by
being set and unset only (`environment_move`), and the log on the configuration is written by the
move that fills the memory (`configuration_move`).

**Many moves.**  A *history* lists the moves with the session that each is made in.  What is kept at
its end is what the variables said at the first reading since the last clearing, and every reading
since found just that (`Remembers`).  One more move keeps it so (`Remembers.move`), and the
induction adds moves at the end, where the stretch since the last clearing grows.
-/

namespace ReactLint

namespace Session

/-- A move and the session that it is made in. -/
structure Step where
  session : Session
  move : Move

namespace Step

/-- Whether the move reads the thresholds in effect. -/
def isReading (e : Step) : Bool := e.session.reads e.move

/-- Whether the move clears what is kept. -/
def isClearing (e : Step) : Bool :=
  match e.move with
  | .clearThresholds => true
  | _ => false

end Step

/-- The moves made one after the other, each with the session that it is made in. -/
def history (s : Session) : List Move → List Step
  | [] => []
  | m :: rest => ⟨s, m⟩ :: history (s.move m).session rest

/-- The session after moves. -/
def after (s : Session) (moves : List Move) : Session :=
  moves.foldl (fun s m => (s.move m).session) s

/-- The readings since what is kept was last cleared. -/
def readings (steps : List Step) : List Step :=
  (steps.rtakeWhile fun e => !e.isClearing).filter Step.isReading

variable {s : Session}

lemma effect_of_reads {m : Move} (h : s.reads m = true) : s.effect m = s := by
  cases m with
  | setVariable name value =>
      rw [reads, plan] at h
      cases herror : Environment.variableError? name value <;> simp [herror, Plan.isAwaiting] at h
  | unsetVariable _ | clearThresholds | writeFile _ _ | removeFile _ =>
      simp [reads, plan, Plan.isAwaiting] at h
  | _ => rfl

/-- **A move that reads** is carried out under the thresholds in effect, which are logged before
anything else if they had to be read from the variables, and are kept. -/
lemma move_of_reads (hs : s.Sound) {m : Move} (h : s.reads m = true) :
    s.move m = ⟨((s.plan m).under s.thresholds.result).1,
      s.thresholds.log ++ ((s.plan m).under s.thresholds.result).2, s.thresholds.session⟩ := by
  rw [move_eq_plan hs, effect_of_reads h]
  cases hplan : s.plan m with
  | settled a => simp [reads, hplan, Plan.isAwaiting] at h
  | awaiting f => rfl

/-- **A move that does not read** comes out the same under any thresholds and has just its own
effect. -/
lemma move_of_not_reads (hs : s.Sound) {m : Move} (h : s.reads m = false) (t : Thresholds) :
    s.move m = ⟨((s.plan m).under t).1, ((s.plan m).under t).2, s.effect m⟩ := by
  rw [move_eq_plan hs]
  cases hplan : s.plan m with
  | settled a => rfl
  | awaiting f => simp [reads, hplan, Plan.isAwaiting] at h

lemma move_result (hs : s.Sound) (m : Move) :
    (s.move m).result = ((s.plan m).under s.thresholds.result).1 := by
  cases hreads : s.reads m with
  | true => rw [move_of_reads hs hreads]
  | false => rw [move_of_not_reads hs hreads s.thresholds.result]

/-- Reading the thresholds keeps them and changes nothing else. -/
lemma thresholds_session (s : Session) :
    s.thresholds.session = { s with kept := some s.thresholds.result } := by
  cases hkept : s.kept with
  | none => simp [thresholds_of_none hkept]
  | some t => simp [thresholds_of_some hkept, ← hkept]

lemma effect_kept (s : Session) (m : Move) :
    (s.effect m).kept = if (Step.mk s m).isClearing then none else s.kept := by
  cases m with
  | setVariable name value =>
      rw [effect]
      cases Environment.variableError? name value <;> rfl
  | _ => rfl

lemma effect_now (s : Session) (m : Move) : (s.effect m).now = s.now := by
  cases m with
  | setVariable name value =>
      rw [effect]
      cases Environment.variableError? name value <;> rfl
  | _ => rfl

/-- Beyond its own effect, a move changes what is kept and nothing else. -/
lemma move_session (hs : s.Sound) (m : Move) :
    (s.move m).session = { s.effect m with
      kept := if s.reads m then some s.thresholds.result else (s.effect m).kept } := by
  cases hreads : s.reads m with
  | true => simp [move_of_reads hs hreads, thresholds_session, effect_of_reads hreads]
  | false => simp [move_of_not_reads hs hreads s.thresholds.result]

/-- **What is kept after a move**: the thresholds in effect if it reads them, nothing if it clears
them, and otherwise what was kept before. -/
lemma kept_move (hs : s.Sound) (m : Move) :
    (s.move m).session.kept =
      if s.reads m then some s.thresholds.result
      else if (Step.mk s m).isClearing then none else s.kept := by
  rw [move_session hs, effect_kept]

lemma now_move (hs : s.Sound) (m : Move) : (s.move m).session.now = s.now := by
  rw [move_session hs]
  exact s.effect_now m

/-- What is kept came from variables, before the move or in it. -/
lemma Sound.move (hs : s.Sound) (m : Move) : (s.move m).session.Sound := by
  intro t ht
  rw [kept_move hs] at ht
  split_ifs at ht
  · rw [← Option.some.inj ht]
    exact hs.thresholds
  · cases ht
  · exact hs t ht

/-- A history grows at its end, by the move and the session that the moves before have led to. -/
lemma history_concat (s : Session) (moves : List Move) (m : Move) :
    s.history (moves ++ [m]) = s.history moves ++ [⟨s.after moves, m⟩] := by
  induction moves generalizing s with
  | nil => rfl
  | cons m' rest ih => simp [history, ih, after]

lemma after_concat (s : Session) (moves : List Move) (m : Move) :
    s.after (moves ++ [m]) = ((s.after moves).move m).session := by
  simp [after]

lemma Sound.after (hs : s.Sound) (moves : List Move) : (s.after moves).Sound := by
  induction moves using List.reverseRecOn with
  | nil => exact hs
  | append_singleton moves m ih =>
      rw [after_concat]
      exact ih.move m

lemma Sound.history (hs : s.Sound) {moves : List Move} :
    ∀ e ∈ s.history moves, e.session.Sound := by
  induction moves using List.reverseRecOn with
  | nil => simp [Session.history]
  | append_singleton moves m ih =>
      intro e he
      rw [history_concat] at he
      rcases List.mem_append.mp he with hbefore | hlast
      · exact ih e hbefore
      · rw [List.mem_singleton.mp hlast]
        exact hs.after moves

lemma now_after (hs : s.Sound) (moves : List Move) : (s.after moves).now = s.now := by
  induction moves using List.reverseRecOn with
  | nil => rfl
  | append_singleton moves m ih =>
      rw [after_concat, now_move (hs.after moves), ih]

/-- One more move starts the readings afresh if it clears, and else joins them if it reads. -/
lemma readings_concat (steps : List Step) (e : Step) :
    readings (steps ++ [e]) =
      if e.isClearing then [] else readings steps ++ if e.isReading then [e] else [] := by
  rw [readings, List.rtakeWhile_concat]
  cases e.isClearing with
  | true => rfl
  | false =>
      cases hreads : e.isReading <;> simp [readings, hreads]

/-- No move does both. -/
lemma not_reads_of_isClearing {m : Move} (h : (Step.mk s m).isClearing = true) :
    s.reads m = false := by
  cases m with
  | clearThresholds => rfl
  | _ => simp [Step.isClearing] at h

/-- What is kept is what the variables said at the first reading since the last clearing, and every
reading since found just that. -/
structure Remembers (s : Session) (steps : List Step) : Prop where
  kept_eq : s.kept = (readings steps).head?.map fun e => e.session.environment.thresholds
  same : ∀ e ∈ readings steps, s.kept = some e.session.thresholds.result

/-- **One more move keeps the memory in order**, whether it clears, reads or does neither. -/
lemma Remembers.move {steps : List Step} (hs : s.Sound) (h : s.Remembers steps) (m : Move) :
    (s.move m).session.Remembers (steps ++ [⟨s, m⟩]) := by
  have hreadings := readings_concat steps ⟨s, m⟩
  have hkept := kept_move hs m
  cases hclears : (Step.mk s m).isClearing with
  | true =>
      rw [not_reads_of_isClearing hclears, hclears] at hkept
      rw [hclears, if_pos rfl] at hreadings
      exact ⟨by rw [hreadings, hkept]; rfl, by simp [hreadings]⟩
  | false =>
      rw [hclears, Step.isReading] at hreadings
      rw [hclears] at hkept
      cases hreads : s.reads m with
      | false =>
          simp only [hreads, Bool.false_eq_true, if_false, List.append_nil] at hreadings hkept
          exact ⟨by rw [hreadings, hkept, h.kept_eq], by rw [hreadings, hkept]; exact h.same⟩
      | true =>
          simp only [hreads, Bool.false_eq_true, if_false, if_true] at hreadings hkept
          cases hbefore : readings steps with
          | nil =>
              -- the first reading finds nothing kept and asks the variables
              have hnone : s.kept = none := by rw [h.kept_eq, hbefore]; rfl
              rw [hbefore] at hreadings
              exact ⟨by rw [hkept, hreadings, thresholds_of_none hnone]; rfl,
                by simp [hreadings, hkept]⟩
          | cons first rest =>
              -- a later one finds what the first has left
              have hsome : s.kept = some first.session.environment.thresholds := by
                rw [h.kept_eq, hbefore]; rfl
              have hsame : (s.move m).session.kept = s.kept := by
                rw [hkept, thresholds_of_some hsome, hsome]
              refine ⟨by rw [hsame, hreadings, hbefore, hsome]; rfl, fun e he => ?_⟩
              rw [hreadings] at he
              rcases List.mem_append.mp he with hearlier | hlast
              · rw [hsame]
                exact h.same e hearlier
              · rw [List.mem_singleton.mp hlast]
                exact hkept

lemma Remembers.found {steps : List Step} (h : s.Remembers steps) {t : Thresholds}
    (hkept : s.kept = some t) : ∀ e ∈ readings steps, e.session.thresholds.result = t := by
  intro e he
  rw [h.same e he] at hkept
  exact Option.some.inj hkept

end Session

end ReactLint
