import ReactLint.Proofs.Service.Plan
import ReactLint.Proofs.Threshold.Entrywise

/-!
# Limits from variables

A limit can be given as an option and by a variable, and each way has a reader of its own: the one
of options refuses what it cannot read, the one of variables logs it and takes the default.  This
file shows that the two accept the same texts with the same values.

**One variable.**  `limit_cases` says all that reading one variable can come to: a value that the
option has too, or the default where the option is refused, with one log entry unless the variable
holds nothing.

**All variables.**  Each limit is read from its own variable, and the log goes through the limits in
their order.  A log entry names its variable (`LogEntry.limit?`), so the log can be read back as the
list of the limits whose variables cannot be used (`map_limit?_thresholdLog`).
-/

namespace ReactLint

open Text

/-- The limit whose variable a log entry is about. -/
def LogEntry.limit? (x : LogEntry) : Option Limit :=
  Limit.all.find? fun l => starts (l.variableName ++ "=") x.message.toList

/-- A warning about the configuration that names the variable of the limit. -/
structure LogEntry.WarnsOf (x : LogEntry) (l : Limit) : Prop where
  level : x.level = .warning
  origin : x.origin = .configuration
  limit : x.limit? = some l

lemma LogEntry.limit?_of_message {x : LogEntry} {l : Limit}
    (h : ∃ rest, x.message = l.variableName ++ "=" ++ rest) : x.limit? = some l := by
  obtain ⟨rest, h⟩ := h
  rw [LogEntry.limit?, h]
  simp only [String.toList_append, starts, skip?]
  cases l <;> rfl

lemma Thresholds.readOption_text (l : Limit) (raw : Text) :
    readOption l.option.toList (.text raw) =
      match readInteger? raw with
      | none => .error (.notInteger l (.text raw))
      | some n => if n ≤ 0 then .error (.notPositive l n) else .ok (l, n) := by
  rw [readOption, Limit.ofOption?_option]
  simp only [integerOf]
  cases readInteger? raw <;> rfl

namespace Environment

variable (e : Environment) (l : Limit)

/-- What the variable of a limit holds, without the blanks around it; nothing when it is not set. -/
def setting : Text := trim ((e.get? l.variableName.toList).getD [])

/-- The thresholds that the setting of a limit gives as the only option. -/
def settingAlone : Except OptionError Thresholds :=
  Thresholds.ofOptions [(l.option.toList, .text (e.setting l))]

/-- Whether the variable of a limit holds something that is refused as an option. -/
def isUnusable : Bool := !(e.setting l).isEmpty && !(e.settingAlone l).isOk

/-! ## One variable -/

lemma notIntegerEntry_warnsOf (raw : Text) : (notIntegerEntry l raw).WarnsOf l := by
  refine ⟨rfl, rfl, LogEntry.limit?_of_message ?_⟩
  simp only [notIntegerEntry, toString, String.append_assoc]
  exact ⟨_, rfl⟩

lemma notPositiveEntry_warnsOf (n : Int) : (notPositiveEntry l n).WarnsOf l := by
  refine ⟨rfl, rfl, LogEntry.limit?_of_message ?_⟩
  simp only [notPositiveEntry, toString, String.append_assoc]
  exact ⟨_, rfl⟩

/-- **Reading one variable** comes to one of two things.  The setting is a positive integer, and
then it is the limit by itself as it is as an option; or the option is refused and the limit has its
default, with one warning unless the setting is empty. -/
lemma limit_cases :
    (∃ n, e.settingAlone l = .ok (Thresholds.default.set l n) ∧ e.limit l = (n, [])) ∨
    ∃ cause log, e.settingAlone l = .error cause ∧ e.limit l = (l.default, log) ∧
      (e.setting l = [] → log = []) ∧ (e.setting l ≠ [] → ∃ x, log = [x] ∧ x.WarnsOf l) := by
  have hread := Thresholds.readOption_text l (e.setting l)
  have hrefused {cause : OptionError}
      (h : Thresholds.readOption l.option.toList (.text (e.setting l)) = .error cause) :
      e.settingAlone l = .error cause :=
    (Thresholds.ofOptions_singleton_error _).mpr h
  have hlimit : e.limit l =
      if (e.setting l).isEmpty then (l.default, [])
      else match readInteger? (e.setting l) with
        | none => (l.default, [notIntegerEntry l (e.setting l)])
        | some n => if n ≤ 0 then (l.default, [notPositiveEntry l n]) else (n, []) := rfl
  cases hempty : e.setting l with
  | nil =>
      have hinteger : readInteger? (e.setting l) = none := by
        rw [hempty]
        rfl
      rw [hinteger] at hread
      rw [hempty] at hlimit
      exact Or.inr ⟨_, [], hrefused hread, hlimit, fun _ => rfl, fun h => absurd rfl h⟩
  | cons c cs =>
      rw [← hempty]
      have hne : e.setting l ≠ [] := by simp [hempty]
      rw [if_neg (by simpa using hne)] at hlimit
      cases hinteger : readInteger? (e.setting l) with
      | none =>
          rw [hinteger] at hread hlimit
          exact Or.inr ⟨_, _, hrefused hread, hlimit, fun h => absurd h hne,
            fun _ => ⟨_, rfl, notIntegerEntry_warnsOf l _⟩⟩
      | some n =>
          simp only [hinteger] at hread hlimit
          by_cases hn : n ≤ 0
          · rw [if_pos hn] at hread hlimit
            exact Or.inr ⟨_, _, hrefused hread, hlimit, fun h => absurd h hne,
              fun _ => ⟨_, rfl, notPositiveEntry_warnsOf l n⟩⟩
          · rw [if_neg hn] at hread hlimit
            exact Or.inl ⟨n, (Thresholds.ofOptions_singleton _).mpr ⟨l, n, hread, rfl⟩, hlimit⟩

/-! ## All variables -/

lemma get_thresholds :
    e.thresholds.get l = ((e.settingAlone l).toOption.map (·.get l)).getD l.default := by
  rw [thresholds, Thresholds.get_ofFun]
  rcases e.limit_cases l with ⟨n, halone, hlimit⟩ | ⟨cause, log, halone, hlimit, -⟩
  · rw [halone, hlimit]
    simp [Except.toOption]
  · rw [halone, hlimit]
    rfl

lemma map_limit?_limit :
    (e.limit l).2.map LogEntry.limit? = if e.isUnusable l then [some l] else [] := by
  rw [isUnusable]
  rcases e.limit_cases l with ⟨n, halone, hlimit⟩ | ⟨cause, log, halone, hlimit, hnone, hone⟩
  · simp [halone, hlimit, Except.isOk, Except.toBool]
  · rw [halone, hlimit]
    cases hsetting : e.setting l with
    | nil => simp [hnone hsetting]
    | cons c cs =>
        obtain ⟨x, rfl, hx⟩ := hone (by simp [hsetting])
        simp [hx.limit, Except.isOk, Except.toBool]

/-- The log is about the variables that cannot be used, each once and in order. -/
lemma map_limit?_thresholdLog :
    e.thresholdLog.map LogEntry.limit? = (Limit.all.filter e.isUnusable).map some := by
  rw [thresholdLog, List.map_flatMap]
  simp only [map_limit?_limit]
  induction Limit.all with
  | nil => rfl
  | cons l ls ih =>
      rw [List.flatMap_cons, ih, List.filter_cons]
      split_ifs <;> rfl

lemma warning_of_mem_thresholdLog {x : LogEntry} (hx : x ∈ e.thresholdLog) :
    x.level = .warning ∧ x.origin = .configuration := by
  obtain ⟨l, -, hl⟩ := List.mem_flatMap.mp hx
  rcases e.limit_cases l with ⟨n, -, hlimit⟩ | ⟨cause, log, -, hlimit, hnone, hone⟩
  · simp [hlimit] at hl
  · rw [hlimit] at hl
    by_cases hsetting : e.setting l = []
    · simp [hnone hsetting] at hl
    · obtain ⟨y, rfl, hy⟩ := hone hsetting
      obtain rfl := List.mem_singleton.mp hl
      exact ⟨hy.level, hy.origin⟩

end Environment

namespace Session

/-- **Variables are read as options are.**  A service that keeps no thresholds always has an answer
when it is asked for them.  Each limit in it is what its variable, without the blanks around it,
gives as an option alone, and the default where that option is refused; so it does not depend on
other variables.  What is logged is one warning for each variable that is not blank and refused as
an option, in the order of the limits, and nothing else. -/
theorem variables_read_as_options (s : Session) (hkept : s.kept = none) :
    let e := s.environment
    let o := s.move .askThresholds
    ∃ t, o.result = .ok (.thresholds t) ∧
      (∀ l, t.get l = ((e.settingAlone l).toOption.map (·.get l)).getD l.default) ∧
      (o.log.map LogEntry.limit? = (Limit.all.filter e.isUnusable).map some ∧
        ∀ x ∈ o.log, x.level = .warning ∧ x.origin = .configuration) ∧
      ∀ (s' : Session) (l : Limit), s'.kept = none →
        s'.environment.get? l.variableName.toList = e.get? l.variableName.toList →
        ∃ t', (s'.move .askThresholds).result = .ok (.thresholds t') ∧ t'.get l = t.get l := by
  intro e o
  have hmove {s : Session} (h : s.kept = none) :
      (s.move .askThresholds).result = .ok (.thresholds s.environment.thresholds) ∧
        (s.move .askThresholds).log = s.environment.thresholdLog := by
    rw [move, thresholds_of_none h]
    exact ⟨rfl, rfl⟩
  refine ⟨e.thresholds, (hmove hkept).1, e.get_thresholds, ⟨?_, ?_⟩, ?_⟩
  · rw [(hmove hkept).2]
    exact e.map_limit?_thresholdLog
  · rw [(hmove hkept).2]
    intro x hx
    exact e.warning_of_mem_thresholdLog hx
  · intro s' l hkept' hsame
    refine ⟨s'.environment.thresholds, (hmove hkept').1, ?_⟩
    rw [Environment.get_thresholds, Environment.get_thresholds, Environment.settingAlone,
      Environment.settingAlone, Environment.setting, Environment.setting, hsame]

/-- A zero and a word are refused and logged, in the order of the limits whatever order the
variables have; digits of another script, a sign and an underscore are read; a blank variable is as
good as none. -/
theorem variables_read_as_options_mixed :
    let s : Session := ⟨⟨[("LINT_MAX_JSX_LINES".toList, "tall".toList),
      ("LINT_MAX_STATE_HOOKS".toList, " \t".toList), ("LINT_MAX_PARAMS".toList, " +1_2 ".toList),
      ("LINT_MAX_FUNCTION_LINES".toList, "٣٠".toList),
      ("LINT_MAX_FILE_LINES".toList, "-0".toList)]⟩, none, ⟨[], []⟩, ⟨2024, 1, 2, 3, 4, 5⟩⟩
    let o := s.move .askThresholds
    s.kept = none ∧ o.log.map LogEntry.limit? = [some .fileLines, some .markupLines] ∧
      ∃ t, o.result = .ok (.thresholds t) ∧ t = ⟨150, 30, 12, 20, 60, 5⟩ := by
  intro s o
  obtain ⟨t, ht, hget, ⟨hlog, -⟩, -⟩ := variables_read_as_options s rfl
  refine ⟨rfl, hlog.trans (by decide +kernel), t, ht, Thresholds.eq_of_get fun l => ?_⟩
  rw [hget]
  cases l <;> decide +kernel

end Session

end ReactLint
