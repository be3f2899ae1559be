import Mathlib.Data.List.Forall2
import Mathlib.Tactic.Common
import ReactLint.Service.Environment
import ReactLint.Service.Request

/-!
# Replaced limits

The thresholds in effect may have some of their limits replaced by a request.  The new values go the
way of all options, which refuses a limit that is not positive.  It never comes to that: whatever
the environment says, its thresholds are positive, and a request with a limit that is not positive
is refused when it is read.

**Both sources are positive.**  `thresholds_positive` for the environment, `overrides_positive`
for a request.

**Replacing is pointwise.**  Where all values are positive, every option can be read, and what comes
out has each limit from the request if it is there and from the thresholds otherwise
(`override_eq`).
-/

namespace ReactLint

namespace Thresholds

/-- All limits are positive. -/
def Positive (t : Thresholds) : Prop := ∀ l, 0 < t.get l

/-- The thresholds with some limits replaced. -/
def replaced (t : Thresholds) (o : Limit → Option Int) : Thresholds :=
  ofFun fun l => (o l).getD (t.get l)

/-- A limit is the new one if there is one, and the old one otherwise. -/
@[simp] lemma get_replaced (t : Thresholds) (o : Limit → Option Int) (l : Limit) :
    (t.replaced o).get l = (o l).getD (t.get l) := by
  rw [replaced, get_ofFun]

@[simp] lemma replaced_none (t : Thresholds) : t.replaced (fun _ => none) = t := by
  simp [replaced]

/-- Positive limits replaced by positive ones are positive. -/
lemma Positive.replaced {t : Thresholds} (ht : t.Positive) {o : Limit → Option Int}
    (ho : ∀ l, ∀ n ∈ o l, 0 < n) : (t.replaced o).Positive := by
  intro l
  rw [get_replaced]
  cases hl : o l with
  | none => exact ht l
  | some n => exact ho l n hl

/-- A positive integer is read as the limit that its name stands for. -/
lemma readOption_integer (l : Limit) {n : Int} (hn : 0 < n) :
    readOption l.option.toList (.integer n) = .ok (l, n) := by
  rw [readOption, Limit.ofOption?_option]
  simp only [integerOf]
  rw [if_neg (by omega)]

/-- **Setting options of positive integers never fails**: limits that are in the list are set, the
others stay. -/
lemma setOptions_integers {f : Limit → Int} (hf : ∀ l, 0 < f l) (t : Thresholds)
    (ls : List Limit) :
    setOptions t (ls.map fun l => (l.option.toList, .integer (f l)))
      = .ok (ofFun fun k => if k ∈ ls then f k else t.get k) := by
  induction ls generalizing t with
  | nil => simp [setOptions]
  | cons l ls ih =>
      rw [List.map_cons, setOptions, readOption_integer l (hf l)]
      simp only [ih, get_set]
      congr 2
      funext k
      by_cases hk : k = l
      · subst hk
        simp
      · simp [hk]

/-- **Replacing limits is pointwise** and never fails. -/
lemma override_eq {t : Thresholds} (ht : t.Positive) {o : Limit → Option Int}
    (ho : ∀ l, ∀ n ∈ o l, 0 < n) : t.override o = .ok (t.replaced o) := by
  rw [override]
  split_ifs with hnone
  · have hall : o = fun _ => none := by
      funext l
      simpa using List.all_eq_true.mp hnone l (Limit.mem_all l)
    rw [hall, replaced_none]
  · have hpos : ∀ l, 0 < (o l).getD (t.get l) := by
      intro l
      simpa using ht.replaced ho l
    rw [ofOptions, setOptions_integers hpos]
    simp [Limit.mem_all, replaced]

end Thresholds

lemma Limit.default_pos (l : Limit) : 0 < l.default := by cases l <;> decide

namespace Environment

/-- **The thresholds of an environment are positive**, whatever its variables say: a value that is
not positive is passed over in favour of the default. -/
lemma thresholds_positive (e : Environment) : e.thresholds.Positive := by
  intro l
  rw [thresholds, Thresholds.get_ofFun, limit]
  split_ifs
  · exact l.default_pos
  · split
    · exact l.default_pos
    · split_ifs with hn
      · exact l.default_pos
      · exact Int.not_le.mp hn

end Environment

/-! ## Limits in a request -/

namespace Checked

lemma both_eq_ok {α β : Type} {a : Checked α} {b : Checked β} {p : α × β}
    (h : both a b = .ok p) : a = .ok p.1 ∧ b = .ok p.2 := by
  cases a with
  | error e => cases b <;> simp [both] at h
  | ok x =>
      cases b with
      | error f => simp [both] at h
      | ok y =>
          obtain rfl := Except.ok.inj h
          exact ⟨rfl, rfl⟩

/-- A list that was checked without a fault had a fault nowhere. -/
lemma all_eq_ok {α : Type} {as : List (Checked α)} {xs : List α} (h : all as = .ok xs) :
    as = xs.map .ok := by
  induction as generalizing xs with
  | nil =>
      obtain rfl := Except.ok.inj h
      rfl
  | cons a as ih =>
      rw [all] at h
      cases hboth : both a (all as) with
      | error e =>
          rw [hboth] at h
          cases h
      | ok p =>
          rw [hboth] at h
          obtain rfl := Except.ok.inj h
          obtain ⟨ha, hrest⟩ := both_eq_ok hboth
          rw [List.map_cons, ha, ih hrest]

lemma map_eq_ok {α β : Type} {a : Checked α} {f : α → β} {y : β} (h : a.map f = .ok y) :
    ∃ x, a = .ok x ∧ f x = y := by
  cases a with
  | error e => cases h
  | ok x => exact ⟨x, rfl, Except.ok.inj h⟩

end Checked

namespace Request

/-- A limit in a request is refused unless it is positive. -/
lemma limit_pos {place : List BodyStep} {v : Option Value} {n : Int}
    (h : limit place v = .ok (some n)) : 0 < n := by
  unfold limit at h
  split at h
  · cases h
  · cases h
  · split at h
    · cases h
    · split_ifs at h with hm
      · cases h
      · cases h
        exact Int.not_le.mp hm

/-- **The limits of a request that has been read are positive.** -/
lemma overrides_positive {place : List BodyStep} {v : Option Value} {o : Overrides}
    (h : overrides place v = .ok o) (l : Limit) : ∀ n ∈ o l, 0 < n := by
  intro n hn
  unfold overrides at h
  split at h
  · cases h
    cases hn
  · cases h
    cases hn
  · obtain ⟨⟨limits, u⟩, hboth, rfl⟩ := Checked.map_eq_ok h
    have hall := Checked.all_eq_ok (Checked.both_eq_ok hboth).1
    have hmem : (l, some n) ∈ limits := by
      have hlookup : limits.lookup l = some (some n) := Option.join_eq_some_iff.mp hn
      obtain ⟨before, behind, rfl, -⟩ := List.lookup_eq_some_iff.mp hlookup
      exact List.mem_append_right _ List.mem_cons_self
    have hread : (.ok (l, some n) : Checked (Limit × Option Int)) ∈ limits.map .ok :=
      List.mem_map_of_mem hmem
    rw [← hall, List.mem_map] at hread
    obtain ⟨l', -, hl'⟩ := hread
    obtain ⟨x, hx, hpair⟩ := Checked.map_eq_ok hl'
    obtain ⟨rfl, rfl⟩ := Prod.mk.inj hpair
    exact limit_pos hx
  · cases h

/-- The limits of a request for a check. -/
lemma check_overrides {v : Value} {r : CheckRequest} (h : check v = .ok r) :
    ∀ l, ∀ n ∈ r.overrides l, 0 < n := by
  cases v with
  | object members =>
      obtain ⟨⟨code, fileName, filePath, limits⟩, hparts, rfl⟩ := Checked.map_eq_ok h
      have hlimits := (Checked.both_eq_ok (Checked.both_eq_ok (Checked.both_eq_ok hparts).2).2).2
      exact overrides_positive hlimits
  | _ => cases h

lemma batch_overrides {v : Value} {r : BatchRequest} (h : batch v = .ok r) :
    ∀ l, ∀ n ∈ r.overrides l, 0 < n := by
  cases v with
  | object members =>
      obtain ⟨⟨files, limits⟩, hparts, rfl⟩ := Checked.map_eq_ok h
      exact overrides_positive (Checked.both_eq_ok hparts).2
  | _ => cases h

end Request

end ReactLint
