import ReactLint.Proofs.Finding.Category

/-!
# Looser limits

What raising limits does to a report.  A rule that measures against a limit keeps what exceeds it,
so under a higher limit it keeps less, and the first line that it keeps can only come later.

**Coverage.**  `Covers d d'` says that `d` has at least the anchors of `d'` and the same category.
An issue of `d'` then has its counterpart among the issues of `d`, no lower in the file
(`issue_of_covers`).  Every diagnosis under higher limits is covered by one under the lower limits
(`diagnose_covers`).

**The exception.**  Scattered constants are reported only where no constant is too long.  A lower
limit on the length of constants may thus put a large constant in their place, which is the one way
in which lower limits hide something (`scattered_of_lower`).
-/

namespace ReactLint

open Text

/-- The categories whose issues depend on a limit. -/
def measuredCategories : List String :=
  ["file-size", "long-function", "too-many-params", "too-many-states", "large-constant",
    "scattered-constants", "large-jsx"]

/-! ## Diagnoses -/

/-- `d` reports under the same category as `d'` and is anchored among at least the same lines. -/
structure Covers (d d' : Diagnosis) : Prop where
  category : d.category = d'.category
  isFileLevel : d.isFileLevel = d'.isFileLevel
  anchors : d'.anchors ⊆ d.anchors

lemma Covers.refl (d : Diagnosis) : Covers d d := ⟨rfl, rfl, List.Subset.refl _⟩

/-- The issue of a diagnosis stands no lower than any of its anchors. -/
lemma exists_issue_of_mem_anchors {d : Diagnosis} (hfile : d.isFileLevel = false) {n : Nat}
    (hn : n ∈ d.anchors) : ∃ i ∈ d.issues, i.line ≤ n := by
  have hmem : (n : Int) ∈ d.anchors.map Int.ofNat := List.mem_map_of_mem hn
  obtain ⟨first, hfirst⟩ := Option.isSome_iff_exists.mp (List.isSome_min?_of_mem hmem)
  have hle := (List.min?_eq_some_iff.mp hfirst).2 _ hmem
  rw [Diagnosis.issues, hfile, if_neg Bool.false_ne_true, consolidate, hfirst]
  exact ⟨_, List.mem_singleton_self _, hle⟩

lemma issue_of_covers {d d' : Diagnosis} (h : Covers d d') {i' : Issue} (hi' : i' ∈ d'.issues) :
    ∃ i ∈ d.issues, i.category = i'.category ∧ i.line ≤ i'.line := by
  obtain ⟨hcategory', -, -, hone', hanchor'⟩ := mem_issues hi'
  have hsame {i : Issue} (hi : i ∈ d.issues) : i.category = i'.category := by
    rw [(mem_issues hi).1, h.category, hcategory']
  cases hfile : d.isFileLevel with
  | true =>
      have hline' := hone' (h.isFileLevel ▸ hfile)
      obtain ⟨i, hi⟩ : ∃ i, i ∈ d.issues := by
        rw [Diagnosis.issues, hfile, if_pos rfl]
        exact ⟨_, List.mem_singleton_self _⟩
      have hline := (mem_issues hi).2.2.2.1 hfile
      exact ⟨i, hi, hsame hi, by omega⟩
  | false =>
      obtain ⟨n, hn, hline'⟩ := hanchor' (h.isFileLevel ▸ hfile)
      obtain ⟨i, hi, hline⟩ := exists_issue_of_mem_anchors hfile (h.anchors hn)
      exact ⟨i, hi, hsame hi, by omega⟩

/-! ## Rules -/

lemma filter_lt_sublist {α : Type} (size : α → Nat) {n n' : Int} (h : n ≤ n') (xs : List α) :
    (xs.filter fun x => n' < (size x : Int)).Sublist (xs.filter fun x => n < (size x : Int)) := by
  refine List.monotone_filter_right xs ?_
  intro x hx
  simp only [decide_eq_true_eq] at hx ⊢
  omega

/-- The constants of a file that are longer than the limit. -/
def oversized (t : Thresholds) (s : Source) : List (Located Measured) :=
  (Declaration.constants s.lines).filter fun c => t.constantLines < (c.item.size : Int)

lemma mem_diagnoseConstants {t : Thresholds} {s : Source} {d : Diagnosis} :
    d ∈ Rule.constants.diagnose t s ↔
      ¬ (inFolder s.path "consts" || inFolder s.path "constants") ∧
        (oversized t s ≠ [] ∧ d = .largeConstants (oversized t s) t.constantLines ∨
          oversized t s = [] ∧ 3 ≤ (Declaration.plainConstants s.lines).length ∧
            d = .scatteredConstants (Declaration.plainConstants s.lines)) := by
  rw [Rule.diagnose, Rule.diagnoseConstants, List.mem_ite_nil_left]
  refine and_congr_right ?_
  intro _
  change d ∈ (if !(oversized t s).isEmpty then [.largeConstants (oversized t s) _] else _) ↔ _
  cases oversized t s with
  | nil => simp
  | cons c rest => simp

lemma oversized_ne_nil {t t' : Thresholds} (h : t.constantLines ≤ t'.constantLines) {s : Source}
    (hne : oversized t' s ≠ []) : oversized t s ≠ [] := by
  intro hnil
  have hsublist := filter_lt_sublist (fun c : Located Measured => c.item.size) h
    (Declaration.constants s.lines)
  exact hne (List.sublist_nil.mp (hnil ▸ hsublist))

open Rule in
/-- **What is found under higher limits is found under lower ones**, scattered constants apart. -/
lemma diagnose_covers {t t' : Thresholds} (h : ∀ l, t.get l ≤ t'.get l) {s : Source} {r : Rule}
    {d' : Diagnosis} (hd' : d' ∈ r.diagnose t' s) (hne : d'.category ≠ "scattered-constants") :
    ∃ d ∈ r.diagnose t s, Covers d d' := by
  cases r with
  | fileSize =>
      have hlimit : t.fileLines ≤ t'.fileLines := h .fileLines
      simp only [diagnose, diagnoseFileSize, List.mem_ite_nil_left, List.mem_singleton] at hd' ⊢
      obtain ⟨hcount, rfl⟩ := hd'
      exact ⟨_, ⟨by omega, rfl⟩, rfl, rfl, List.Subset.refl _⟩
  | functions =>
      simp only [diagnose, diagnoseFunctions, List.mem_cons, List.not_mem_nil, or_false] at hd' ⊢
      rcases hd' with rfl | rfl | rfl
      · refine ⟨_, Or.inl rfl, rfl, rfl, ?_⟩
        exact (((filter_lt_sublist _ (h .functionLines) _).map _).map _).subset
      · exact ⟨_, Or.inr (Or.inl rfl), Covers.refl _⟩
      · refine ⟨_, Or.inr (Or.inr rfl), rfl, rfl, ?_⟩
        exact ((filter_lt_sublist _ (h .params) _).map _).subset
  | stateCount =>
      have hlimit : t.stateHooks ≤ t'.stateHooks := h .stateHooks
      simp only [diagnose, diagnoseStates, List.mem_ite_nil_right, List.mem_singleton,
        Bool.and_eq_true, decide_eq_true_eq] at hd' ⊢
      obtain ⟨⟨hcomponent, hcount⟩, rfl⟩ := hd'
      exact ⟨_, ⟨⟨hcomponent, by omega⟩, rfl⟩, rfl, rfl, List.Subset.refl _⟩
  | constants =>
      obtain ⟨hfolder, ⟨hlarge, rfl⟩ | ⟨-, -, rfl⟩⟩ := mem_diagnoseConstants.mp hd'
      · refine ⟨_, mem_diagnoseConstants.mpr ⟨hfolder, Or.inl ⟨?_, rfl⟩⟩, rfl, rfl, ?_⟩
        · exact oversized_ne_nil (h .constantLines) hlarge
        · exact ((filter_lt_sublist _ (h .constantLines) _).map _).subset
      · exact absurd rfl hne
  | markupSize =>
      simp only [diagnose, diagnoseMarkup, List.mem_ite_nil_right, List.mem_singleton] at hd' ⊢
      obtain ⟨hcomponent, rfl⟩ := hd'
      refine ⟨_, ⟨hcomponent, rfl⟩, rfl, rfl, ?_⟩
      exact ((filter_lt_sublist _ (h .markupLines) _).map _).subset
  | _ => exact ⟨d', hd', Covers.refl d'⟩

/-- Where constants are scattered under the higher limit, they are so under the lower one, unless
one of the constants is too long there. -/
lemma scattered_of_lower {t t' : Thresholds} {s : Source} {d' : Diagnosis}
    (hd' : d' ∈ Rule.constants.diagnose t' s) (hcategory : d'.category = "scattered-constants") :
    d' ∈ Rule.constants.diagnose t s ∨
      ∃ d ∈ Rule.constants.diagnose t s, ∃ i ∈ d.issues, i.category = "large-constant" := by
  obtain ⟨hfolder, ⟨-, rfl⟩ | ⟨-, hmany, rfl⟩⟩ := mem_diagnoseConstants.mp hd'
  · exact absurd hcategory (by simp [Diagnosis.category])
  · by_cases hlarge : oversized t s = []
    · exact Or.inl (mem_diagnoseConstants.mpr ⟨hfolder, Or.inr ⟨hlarge, hmany, rfl⟩⟩)
    · right
      refine ⟨_, mem_diagnoseConstants.mpr ⟨hfolder, Or.inl ⟨hlarge, rfl⟩⟩, ?_⟩
      obtain ⟨c, hc⟩ := List.exists_mem_of_ne_nil _ hlarge
      have hanchor : c.line ∈ (Diagnosis.largeConstants (oversized t s) t.constantLines).anchors :=
        List.mem_map_of_mem hc
      obtain ⟨i, hi, -⟩ := exists_issue_of_mem_anchors rfl hanchor
      exact ⟨i, hi, (mem_issues hi).1⟩

/-! ## Unmeasured categories -/

/-- Whether a category depends on no limit. -/
def isUnmeasured (category : String) : Bool := category ∉ measuredCategories

open Rule in
lemma diagnose_unmeasured (t t' : Thresholds) (s : Source) (r : Rule) :
    (r.diagnose t s).filter (fun d => isUnmeasured d.category)
      = (r.diagnose t' s).filter fun d => isUnmeasured d.category := by
  have hnone (u : Thresholds) (h : ∀ c ∈ r.categories, isUnmeasured c = false) :
      (r.diagnose u s).filter (fun d => isUnmeasured d.category) = [] := by
    rw [List.filter_eq_nil_iff]
    intro d hd
    rw [h _ ((diagnose_categories u s r).subset (List.mem_map_of_mem hd))]
    exact Bool.false_ne_true
  cases r with
  | fileSize | stateCount | constants | markupSize =>
      rw [hnone t (by decide), hnone t' (by decide)]
  | functions => rfl
  | _ => rfl

lemma lint_unmeasured (t t' : Thresholds) (s : Source) :
    (lint t s).filter (fun i => isUnmeasured i.category)
      = (lint t' s).filter fun i => isUnmeasured i.category := by
  simp only [lint, Linter.issues, Linter.full, List.filter_flatMap (l := Rule.all), Rule.check,
    filter_flatMap_issues, diagnose_unmeasured t t' s]

/-! ## The report -/

/-- **Raising limits.**  Let no limit of `t` exceed that of `t'`.  Every category reported under
`t'` is reported under `t`, on the same line or above it, scattered constants apart.  Issues under a
category that depends on no limit are the same.  Where constants are reported as scattered under
`t'`, the same is reported under `t`, or a constant is too large there. -/
theorem lint_of_higher_limits (t t' : Thresholds) (h : ∀ l, t.get l ≤ t'.get l)
    (path content : Text) :
    let strict := lint t ⟨path, content⟩
    let loose := lint t' ⟨path, content⟩
    (∀ i' ∈ loose, i'.category ≠ "scattered-constants" →
        ∃ i ∈ strict, i.category = i'.category ∧ i.line ≤ i'.line) ∧
      (strict.filter (fun i => i.category ∉ measuredCategories)
        = loose.filter fun i => i.category ∉ measuredCategories) ∧
      ∀ i' ∈ loose, i'.category = "scattered-constants" →
        i' ∈ strict ∨ ∃ i ∈ strict, i.category = "large-constant" := by
  intro strict loose
  refine ⟨?_, ?_, ?_⟩
  · intro i' hi' hne
    obtain ⟨r, hr, d', hd', hid⟩ := mem_lint.mp hi'
    obtain ⟨d, hd, hcovers⟩ := diagnose_covers h hd' ((mem_issues hid).1 ▸ hne)
    obtain ⟨i, hi, hfound⟩ := issue_of_covers hcovers hid
    exact ⟨i, mem_lint.mpr ⟨r, hr, d, hd, hi⟩, hfound⟩
  · exact lint_unmeasured t t' ⟨path, content⟩
  · intro i' hi' hcategory
    obtain ⟨r, hr, d', hd', hid⟩ := mem_lint.mp hi'
    have hscattered : d'.category = "scattered-constants" := (mem_issues hid).1 ▸ hcategory
    have hmem := (diagnose_categories t' ⟨path, content⟩ r).subset (List.mem_map_of_mem hd')
    rw [hscattered] at hmem
    obtain rfl : r = .constants := rule_eq_of_mem_categories hmem (by decide)
    rcases scattered_of_lower (t := t) hd' hscattered with hsame | ⟨d, hd, i, hi, hlarge⟩
    · exact Or.inl (mem_lint.mpr ⟨_, hr, d', hsame, hid⟩)
    · exact Or.inr ⟨i, mem_lint.mpr ⟨_, hr, d, hd, hi⟩, hlarge⟩

/-- Three constants, the first of two lines.  They are scattered under the usual limits, and under a
limit of one line the first of them is too large instead. -/
theorem lint_of_higher_limits_constants :
    let t := Thresholds.default.set .constantLines 1
    let path := "a.ts".toList
    let content := "const AB = [\n]\nconst CD = 1\nconst EF = 2".toList
    (∀ l, t.get l ≤ Thresholds.default.get l) ∧
      (lint .default ⟨path, content⟩).map Issue.category = ["scattered-constants"] ∧
      ∃ i ∈ lint t ⟨path, content⟩, i.category = "large-constant" := by
  intro t path content
  have hlimits : ∀ l, t.get l ≤ Thresholds.default.get l := by
    intro l
    cases l <;> decide
  have hscattered :
      (lint .default ⟨path, content⟩).map Issue.category = ["scattered-constants"] := by
    decide +kernel
  have hstrict : "scattered-constants" ∉ (lint t ⟨path, content⟩).map Issue.category := by
    decide +kernel
  refine ⟨hlimits, hscattered, ?_⟩
  obtain ⟨i', hi', hcategory⟩ : ∃ i' ∈ lint .default ⟨path, content⟩,
      i'.category = "scattered-constants" := by
    rw [← List.mem_map, hscattered]
    exact List.mem_singleton_self _
  rcases (lint_of_higher_limits t .default hlimits path content).2.2 i' hi' hcategory with hsame | h
  · exact absurd (hcategory ▸ List.mem_map_of_mem hsame) hstrict
  · exact h

end ReactLint
