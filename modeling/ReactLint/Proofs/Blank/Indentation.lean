import ReactLint.Proofs.Blank.Report
import ReactLint.Proofs.Finding.Category

/-!
# Indentation does not matter

However the lines of a file are indented, every rule but one reports the same.  An indented line has
the trimmed form that it had before, and that is all that these rules depend on
(`diagnose_eq_of_trim`).

The rule on the placement of hooks looks for declarations at the left margin, which indentation
hides from it.  Its other diagnosis, on the number of effect hooks, is not affected.
-/

namespace ReactLint

open Text

/-- What a line can be indented by: blanks that do not end the line. -/
structure Margin where
  text : Text
  blank : isBlankText text
  oneLine : '\n' ∉ text

/-- The text with each line indented by the margin chosen for it. -/
def indent (margin : Nat → Margin) (content : Text) : Text :=
  unlines ((lines content).mapIdx fun i l => (margin i).text ++ l)

lemma lines_indent (margin : Nat → Margin) (content : Text) :
    lines (indent margin content) = (lines content).mapIdx fun i l => (margin i).text ++ l := by
  refine lines_unlines (by simp [lines]) ?_
  intro l hl
  obtain ⟨i, hi, rfl⟩ := List.mem_mapIdx.mp hl
  rw [List.mem_append, not_or]
  exact ⟨(margin i).oneLine, newline_notMem_of_mem_lines (List.getElem_mem hi)⟩

lemma map_trim_indent (margin : Nat → Margin) (content : Text) :
    (lines (indent margin content)).map trim = (lines content).map trim := by
  rw [lines_indent]
  refine List.ext_getElem (by simp) fun i _ _ => ?_
  simp [trim_blank_append (margin i).blank]

/-- Of what the rule on the placement of hooks finds, the count of effect hooks does not depend on
the left margin. -/
lemma filter_diagnoseHooks {s s' : Source} (hpath : s.path = s'.path)
    (heffects : Hook.effectLines s.lines = Hook.effectLines s'.lines) :
    (Rule.diagnoseHooks s).filter (fun d => d.category = "hook-extraction")
      = (Rule.diagnoseHooks s').filter fun d => d.category = "hook-extraction" := by
  have hplacement (found : List (Located Hook.Misplaced)) :
      (Diagnosis.misplacedHooks found).category ≠ "hook-extraction" := by
    simp [Diagnosis.category]
  simp only [Rule.diagnoseHooks, hpath, heffects]
  split_ifs
  · rfl
  · simp [hplacement]
  · simp [hplacement]

/-- **Indentation does not change what rules report.**  Indent the lines of a file by any margins,
each line by its own.  Every rule other than the one on the placement of hooks reports the same
issues, with the same messages, and that one reports the same about the number of effect hooks. -/
theorem check_ignores_indentation (t : Thresholds) (path content : Text)
    (margin : Nat → Margin) :
    let indented : Source := ⟨path, indent margin content⟩
    (∀ r : Rule, r ≠ .hookPlacement → r.check t indented = r.check t ⟨path, content⟩) ∧
      (Rule.hookPlacement.check t indented).filter (fun i => i.category = "hook-extraction")
        = (Rule.hookPlacement.check t ⟨path, content⟩).filter
            fun i => i.category = "hook-extraction" := by
  intro indented
  have htrim := map_trim_indent margin content
  constructor
  · intro r hr
    rw [Rule.check, Rule.check, diagnose_eq_of_trim htrim hr]
  · rw [Rule.check, Rule.check, filter_flatMap_issues (fun c => c = "hook-extraction"),
      filter_flatMap_issues (fun c => c = "hook-extraction")]
    exact congrArg (List.flatMap Diagnosis.issues)
      (filter_diagnoseHooks rfl (effectLines_eq_of_trim htrim))

/-- A console call in a `catch` block is reported as before when the lines are indented, one of them
by a tab and a space.  The hook on the first line is no longer at the left margin. -/
theorem check_ignores_indentation_catch :
    let path := "a.tsx".toList
    let content := unlines ["const useA = 1;".toList, "try {} catch (e) ".toList ++ ['{'],
      "console.log(e);".toList, ['}']]
    let margin : Nat → Margin := fun i =>
      if i = 1 then ⟨['\t', ' '], by decide, by decide⟩ else ⟨[' '], by decide, by decide⟩
    indent margin content
        = unlines [" const useA = 1;".toList, "\t try {} catch (e) ".toList ++ ['{'],
          " console.log(e);".toList, [' ', '}']] ∧
      Rule.consoleCalls ≠ .hookPlacement ∧
      Rule.consoleCalls.check .default ⟨path, indent margin content⟩
        = Rule.consoleCalls.check .default ⟨path, content⟩ ∧
      (Rule.consoleCalls.check .default ⟨path, content⟩).length = 1 ∧
      (Rule.hookPlacement.check .default ⟨path, content⟩).length = 1 ∧
      Rule.hookPlacement.check .default ⟨path, indent margin content⟩ = [] := by
  intro path content margin
  have hrule : Rule.consoleCalls ≠ .hookPlacement := by decide
  exact ⟨by decide +kernel, hrule,
    (check_ignores_indentation .default path content margin).1 .consoleCalls hrule,
    by decide +kernel, by decide +kernel, by decide +kernel⟩

end ReactLint
