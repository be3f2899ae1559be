import Mathlib.Data.List.Flatten
import Mathlib.Data.List.Nodup
import ReactLint.Proofs.Finding.Line
import ReactLint.Proofs.Report.Summary

/-!
# What a report looks like

The issues of a file have a fixed shape, whatever the file, its path and the thresholds.

**Categories.**  A diagnosis becomes at most one issue, of its own category, and a rule makes its
diagnoses in a fixed order of categories (`diagnose_categories`).  The rules run in a fixed order
too, so the categories of a report are a part of `categoryOrder`, in which none stands twice.

**Anchors.**  An issue stands on the first of the lines that its diagnosis is anchored among, or on
line one when it is about the file (`mem_issues`).  Both are lines of the file.

**Counts.**  Counting categories of which none stands twice gives each the count one
(`summarize_of_nodup`).
-/

namespace ReactLint

open Text

/-- The categories in the order in which a report lists them. -/
def categoryOrder : List String :=
  ["file-size", "unused-import", "console-log", "comment", "commented-code", "todo-comment",
    "long-function", "repetitive-pattern", "too-many-params", "duplicate-pattern", "hook-placement",
    "hook-extraction", "too-many-states", "large-constant", "scattered-constants",
    "multiple-components", "inline-type", "large-jsx", "atomic-design", "supabase-query",
    "direct-fetch"]

/-- The categories that a rule reports under, in its order. -/
def Rule.categories : Rule → List String
  | fileSize => ["file-size"]
  | unusedImports => ["unused-import"]
  | consoleCalls => ["console-log"]
  | comments => ["comment", "commented-code", "todo-comment"]
  | functions => ["long-function", "repetitive-pattern", "too-many-params"]
  | tryBlocks => ["duplicate-pattern"]
  | hookPlacement => ["hook-placement", "hook-extraction"]
  | stateCount => ["too-many-states"]
  | constants => ["large-constant", "scattered-constants"]
  | components => ["multiple-components"]
  | inlineTypes => ["inline-type"]
  | markupSize => ["large-jsx"]
  | atomicDesign => ["atomic-design"]
  | queries => ["supabase-query"]
  | fetches => ["direct-fetch"]

lemma flatMap_categories : Rule.all.flatMap Rule.categories = categoryOrder := rfl

lemma nodup_categoryOrder : categoryOrder.Nodup := by decide

lemma find?_categories (r : Rule) :
    ∀ c ∈ r.categories, Rule.all.find? (fun r => r.categories.contains c) = some r := by
  cases r <;> decide

/-- No two rules report under the same category. -/
lemma rule_eq_of_mem_categories {r r' : Rule} {c : String} (h : c ∈ r.categories)
    (h' : c ∈ r'.categories) : r = r' :=
  Option.some.inj ((find?_categories r c h).symm.trans (find?_categories r' c h'))

/-! ## One diagnosis -/

/-- An issue of a diagnosis has the diagnosis's category and is a warning.  It stands on line one
when it is about the file, and on one of the anchors otherwise. -/
lemma mem_issues {d : Diagnosis} {i : Issue} (h : i ∈ d.issues) :
    i.category = d.category ∧ i.severity = .warn ∧ i.fileLevel = d.isFileLevel ∧
      (d.isFileLevel = true → i.line = 1) ∧
      (d.isFileLevel = false → ∃ n ∈ d.anchors, i.line = n) := by
  rw [Diagnosis.issues] at h
  split_ifs at h with hfile
  · obtain rfl := List.mem_singleton.mp h
    exact ⟨rfl, rfl, hfile.symm, fun _ => rfl, fun hnot => absurd hfile (by simp [hnot])⟩
  · rw [consolidate] at h
    cases hmin : (d.anchors.map Int.ofNat).min? with
    | none => simp [hmin] at h
    | some first =>
        rw [hmin] at h
        obtain rfl := List.mem_singleton.mp h
        obtain ⟨n, hn, hfirst⟩ := List.mem_map.mp (List.min?_mem hmin)
        exact ⟨rfl, rfl, (Bool.eq_false_iff.mpr hfile).symm, fun hyes => absurd hyes hfile,
          fun _ => ⟨n, hn, hfirst.symm⟩⟩

/-- The least of numbers in order is the first. -/
lemma min?_of_sorted {ns : List Nat} (h : ns.Pairwise (· ≤ ·)) :
    (ns.map Int.ofNat).min? = ns.head?.map Int.ofNat := by
  cases ns with
  | nil => rfl
  | cons n ns =>
      rw [List.head?_cons, Option.map_some, List.min?_eq_some_iff]
      refine ⟨List.mem_map_of_mem List.mem_cons_self, ?_⟩
      simp only [List.mem_map, forall_exists_index, and_imp, forall_apply_eq_imp_iff₂]
      intro m hm
      rcases List.mem_cons.mp hm with rfl | hm
      · exact Int.le_refl _
      · exact Int.ofNat_le.mpr ((List.pairwise_cons.mp h).1 m hm)

/-- A diagnosis of a part of the file, whose anchors are in order, is reported on the first. -/
lemma issues_of_sorted {d : Diagnosis} (hpart : d.isFileLevel = false)
    (h : d.anchors.Pairwise (· ≤ ·)) :
    d.issues = (d.anchors.head?.map fun (n : Nat) =>
      (⟨n, d.message, .warn, d.category, false⟩ : Issue)).toList := by
  rw [Diagnosis.issues, hpart, if_neg Bool.false_ne_true, consolidate, min?_of_sorted h]
  cases d.anchors <;> rfl

lemma length_issues_le (d : Diagnosis) : d.issues.length ≤ 1 := by
  rw [Diagnosis.issues]
  split_ifs
  · exact Nat.le_refl _
  · rw [consolidate]
    split
    · exact Nat.zero_le _
    · exact Nat.le_refl _

lemma issues_categories (d : Diagnosis) :
    (d.issues.map Issue.category).Sublist [d.category] := by
  have hlength := length_issues_le d
  cases hissues : d.issues with
  | nil => exact List.nil_sublist _
  | cons i rest =>
      rw [hissues, List.length_cons] at hlength
      obtain rfl : rest = [] := List.length_eq_zero_iff.mp (by omega)
      have hcategory := (mem_issues (hissues ▸ List.mem_cons_self : i ∈ d.issues)).1
      rw [List.map_singleton, hcategory]

lemma filter_issues (keep : String → Bool) (d : Diagnosis) :
    d.issues.filter (fun i => keep i.category) = if keep d.category then d.issues else [] := by
  split_ifs with hkeep
  · rw [List.filter_eq_self]
    intro i hi
    rw [(mem_issues hi).1, hkeep]
  · rw [List.filter_eq_nil_iff]
    intro i hi
    rw [(mem_issues hi).1]
    exact hkeep

/-- Issues are told apart by category as the diagnoses are that they come from. -/
lemma filter_flatMap_issues (keep : String → Bool) (ds : List Diagnosis) :
    (ds.flatMap Diagnosis.issues).filter (fun i => keep i.category)
      = (ds.filter fun d => keep d.category).flatMap Diagnosis.issues := by
  rw [List.filter_flatMap]
  induction ds with
  | nil => rfl
  | cons d ds ih =>
      rw [List.flatMap_cons, ih, filter_issues, List.filter_cons]
      split_ifs
      · rfl
      · rfl

/-- The anchors are among the lines that a diagnosis lists. -/
lemma anchors_sublist (d : Diagnosis) : d.anchors.Sublist d.lines := by
  cases d with
  | manyComponents found => exact List.drop_sublist _ _
  | _ => exact List.Sublist.refl _

/-! ## One rule -/

open Rule in
/-- A rule makes its diagnoses in the order of its categories: every branch of it lists them
outright. -/
lemma diagnose_categories (t : Thresholds) (s : Source) (r : Rule) :
    ((r.diagnose t s).map Diagnosis.category).Sublist r.categories := by
  cases r with
  | unusedImports | consoleCalls | comments | functions => exact List.Sublist.refl _
  | _ =>
      simp only [diagnose, diagnoseFileSize, diagnoseTry, diagnoseHooks, diagnoseStates,
        diagnoseConstants, diagnoseComponents, diagnoseTypes, diagnoseMarkup, diagnoseAtomic,
        diagnoseQueries, diagnoseFetches, categories]
      split_ifs <;> simp [Diagnosis.category]

lemma check_categories (t : Thresholds) (s : Source) (r : Rule) :
    ((r.check t s).map Issue.category).Sublist r.categories := by
  rw [Rule.check, List.map_flatMap]
  refine List.Sublist.trans ?_ (diagnose_categories t s r)
  rw [List.map_eq_flatMap]
  exact List.Sublist.flatMap_right _ fun d _ => issues_categories d

/-- What a rule reports under the category of one of its diagnoses is the issue of that diagnosis:
the others have other categories. -/
lemma filter_check_category {t : Thresholds} {s : Source} {r : Rule} {d : Diagnosis}
    (hd : d ∈ r.diagnose t s) :
    (r.check t s).filter (fun i => i.category = d.category) = d.issues := by
  have hnodup : ((r.diagnose t s).map Diagnosis.category).Nodup := by
    refine (diagnose_categories t s r).nodup ?_
    cases r <;> decide
  have honly : (r.diagnose t s).filter (fun d' => d'.category = d.category) = [d] := by
    obtain ⟨before, after, hsplit⟩ := List.append_of_mem hd
    rw [hsplit, List.map_append, List.map_cons, List.nodup_middle, List.nodup_cons] at hnodup
    have hother : ∀ d' ∈ before ++ after, ¬ d'.category = d.category := by
      intro d' hd' heq
      rw [← heq, ← List.map_append] at hnodup
      exact hnodup.1 (List.mem_map_of_mem hd')
    rw [List.forall_mem_append] at hother
    rw [hsplit, List.filter_append, List.filter_cons_of_pos (by simp),
      List.filter_eq_nil_iff.mpr (by simpa using hother.1),
      List.filter_eq_nil_iff.mpr (by simpa using hother.2), List.nil_append]
  rw [Rule.check, filter_flatMap_issues (fun c => c = d.category), honly, List.flatMap_singleton]

/-- So a diagnosis of a part of the file is reported on the first of its anchors, if it has one. -/
lemma filter_check_anchored {t : Thresholds} {s : Source} {r : Rule} {d : Diagnosis}
    (hd : d ∈ r.diagnose t s) (hpart : d.isFileLevel = false) :
    (r.check t s).filter (fun i => i.category = d.category) =
      (d.anchors.head?.map fun (n : Nat) =>
        (⟨n, d.message, .warn, d.category, false⟩ : Issue)).toList := by
  have hsorted := ((lines_of_mem_diagnose hd).sublist (anchors_sublist d)).sorted
  rw [filter_check_category hd, issues_of_sorted hpart hsorted]

/-- Large constants and scattered ones are told apart: there is one diagnosis at most. -/
lemma length_check_constants (t : Thresholds) (s : Source) :
    (Rule.constants.check t s).length ≤ 1 := by
  simp only [Rule.check, Rule.diagnose, Rule.diagnoseConstants]
  split_ifs
  · exact Nat.zero_le _
  · rw [List.flatMap_singleton]
    exact length_issues_le _
  · exact Nat.zero_le _
  · rw [List.flatMap_singleton]
    exact length_issues_le _

/-! ## The report -/

lemma mem_lint {t : Thresholds} {s : Source} {i : Issue} :
    i ∈ lint t s ↔ ∃ r ∈ Rule.all, ∃ d ∈ r.diagnose t s, i ∈ d.issues := by
  simp only [lint, Linter.issues, Linter.full, List.mem_flatMap, Rule.check]

/-- **The categories of a report are in the fixed order.** -/
lemma lint_categories (t : Thresholds) (s : Source) :
    ((lint t s).map Issue.category).Sublist categoryOrder := by
  rw [lint, Linter.issues, List.map_flatMap, ← flatMap_categories]
  exact List.Sublist.flatMap_right _ fun r _ => check_categories t s r

/-- An issue under a category of a rule reports a diagnosis of that rule. -/
lemma exists_diagnosis_of_mem_lint {t : Thresholds} {s : Source} {r : Rule} {i : Issue}
    (hi : i ∈ lint t s) (hc : i.category ∈ r.categories) :
    ∃ d ∈ r.diagnose t s, i ∈ d.issues := by
  obtain ⟨r', -, d, hd, hid⟩ := mem_lint.mp hi
  have hd' : d.category ∈ r'.categories :=
    (diagnose_categories t s r').subset (List.mem_map_of_mem hd)
  rw [(mem_issues hid).1] at hc
  obtain rfl := rule_eq_of_mem_categories hc hd'
  exact ⟨d, hd, hid⟩

/-- An issue under a category of a rule is found by that rule. -/
lemma mem_check_of_mem_lint {t : Thresholds} {s : Source} {r : Rule} {c : String}
    (hc : c ∈ r.categories) (h : c ∈ (lint t s).map Issue.category) :
    c ∈ (r.check t s).map Issue.category := by
  obtain ⟨i, hi, rfl⟩ := List.mem_map.mp h
  obtain ⟨d, hd, hid⟩ := exists_diagnosis_of_mem_lint hi hc
  exact List.mem_map_of_mem (List.mem_flatMap.mpr ⟨d, hd, hid⟩)

/-- Large and scattered constants are not reported together. -/
lemma not_large_and_scattered (t : Thresholds) (s : Source) :
    ¬ ("large-constant" ∈ (lint t s).map Issue.category ∧
      "scattered-constants" ∈ (lint t s).map Issue.category) := by
  rintro ⟨hlarge, hscattered⟩
  have hlarge' := mem_check_of_mem_lint (r := .constants) (by decide) hlarge
  have hscattered' := mem_check_of_mem_lint (r := .constants) (by decide) hscattered
  have hlength : ((Rule.constants.check t s).map Issue.category).length ≤ 1 := by
    rw [List.length_map]
    exact length_check_constants t s
  generalize (Rule.constants.check t s).map Issue.category = found at *
  obtain ⟨c, rfl⟩ : ∃ c, found = [c] :=
    List.length_eq_one_iff.mp (Nat.le_antisymm hlength (List.length_pos_of_mem hlarge'))
  have heq := (List.mem_singleton.mp hlarge').trans (List.mem_singleton.mp hscattered').symm
  exact absurd heq (by decide)

/-- A file has a line. -/
lemma lineCount_pos (s : Source) : 1 ≤ s.lineCount :=
  List.length_pos_of_ne_nil (List.splitOn_ne_nil _ _)

/-- Every issue is a warning on a line of the file, line one when it is about the file. -/
lemma line_of_mem_lint {t : Thresholds} {s : Source} {i : Issue} (h : i ∈ lint t s) :
    (1 ≤ i.line ∧ i.line ≤ s.lineCount) ∧ (i.fileLevel = true → i.line = 1) ∧
      i.severity = .warn := by
  obtain ⟨r, -, d, hd, hi⟩ := mem_lint.mp h
  obtain ⟨-, hwarn, hlevel, hone, hanchor⟩ := mem_issues hi
  have hpos := lineCount_pos s
  refine ⟨?_, fun hfile => hone (hlevel ▸ hfile), hwarn⟩
  cases hfile : d.isFileLevel with
  | true =>
      have := hone hfile
      omega
  | false =>
      obtain ⟨n, hn, hline⟩ := hanchor hfile
      have := (lines_of_mem_diagnose hd).bounds n ((anchors_sublist d).subset hn)
      omega

/-! ## The report as a whole -/

/-- **The shape of a report.**  No category stands twice; the categories are in the fixed order, and
large and scattered constants are not reported together.  Every issue stands on a line of the file,
an issue about the file on line one, and all are warnings.  The summary therefore counts every
category once, in the order of the issues. -/
theorem lint_shape (t : Thresholds) (path content : Text) :
    let issues := lint t ⟨path, content⟩
    let categories := issues.map Issue.category
    categories.Nodup ∧
      (categories.Sublist categoryOrder ∧
        ¬ ("large-constant" ∈ categories ∧ "scattered-constants" ∈ categories)) ∧
      (∀ i ∈ issues, 1 ≤ i.line ∧ i.line ≤ (Text.lines content).length) ∧
      (∀ i ∈ issues, (i.fileLevel = true → i.line = 1) ∧ i.severity = .warn) ∧
      summarize categories = categories.map fun c => (c, 1) := by
  intro issues categories
  have horder : categories.Sublist categoryOrder := lint_categories t ⟨path, content⟩
  have hnodup : categories.Nodup := horder.nodup nodup_categoryOrder
  exact ⟨hnodup, ⟨horder, not_large_and_scattered t ⟨path, content⟩⟩,
    fun i hi => (line_of_mem_lint hi).1, fun i hi => (line_of_mem_lint hi).2,
    summarize_of_nodup hnodup⟩

end ReactLint
