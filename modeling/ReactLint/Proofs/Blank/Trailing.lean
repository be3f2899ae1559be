import ReactLint.Proofs.Blank.Report

/-!
# Blanks at the ends of lines do not matter

A report is the same for any two files whose lines differ in the blanks at their ends only, and in
particular whether lines end in a line feed or in a carriage return and a line feed.

Such lines have the same trimmed forms, so all that is left to look at are the declarations at the
left margin (`Hook.misplaced_map_trimEnd`).  A keyword is what a blank at the end of a line can
complete, and then nothing is left on the line to be declared.
-/

namespace ReactLint

open Text

/-! ## Declarations at the left margin -/

namespace Hook

/-- Texts in which the same declaration stands: padded, or both without room for a keyword. -/
def SameDeclaration (s t : Text) : Prop := Padded s t ∨ Bare s ∧ Bare t

/-- A word such as `export` may stand in front of a declaration or not.  When the added blank
completes it, nothing is left on the line, and on the other line nothing but the word. -/
lemma sameDeclaration_optionalKeyword {s t : Text} {w : String} (hw : Bare w.toList)
    (h : SameDeclaration s t) :
    SameDeclaration (optionalKeyword w s) (optionalKeyword w t) := by
  rw [optionalKeyword, optionalKeyword]
  rcases h with h | ⟨hs, ht⟩
  · rcases keyword?_of_padded hw h with hrel | ⟨hs, ht⟩
    · generalize keyword? w s = o, keyword? w t = o' at hrel
      cases hrel with
      | some hrest => exact Or.inl hrest
      | none => exact Or.inl h
    · rw [hs, keyword?_eq_none_of_bare w ht]
      exact Or.inr ⟨fun c hc => absurd hc List.not_mem_nil, ht⟩
  · rw [keyword?_eq_none_of_bare w hs, keyword?_eq_none_of_bare w ht]
    exact Or.inr ⟨hs, ht⟩

/-- Behind the keyword of a declaration its name is read. -/
lemma bind_identifier?_of_sameDeclaration {s t : Text} {ws : List String}
    (hws : ∀ w ∈ ws, Bare w.toList) (h : SameDeclaration s t) :
    ((keywordAny? ws s).bind identifier?).map Prod.fst
      = ((keywordAny? ws t).bind identifier?).map Prod.fst := by
  rcases h with h | ⟨hs, ht⟩
  · rcases keywordAny?_of_padded hws h with hrel | ⟨hs, ht⟩
    · exact map_eq_of_rel (rel_bind hrel fun _ _ h => rel_run? visible_isIdent h) fun _ _ h => h.1
    · rw [hs, ht]
      rfl
  · rw [keywordAny?_eq_none_of_bare ws hs, keywordAny?_eq_none_of_bare ws ht]

/-- **Blanks at the end of a line declare nothing.** -/
lemma declaredName?_trimEnd (l : Text) : declaredName? (trimEnd l) = declaredName? l := by
  refine apply_trimEnd fun a b _ hb => ?_
  refine bind_identifier?_of_sameDeclaration (by decide) ?_
  exact sameDeclaration_optionalKeyword (by decide)
    (sameDeclaration_optionalKeyword (by decide)
      (sameDeclaration_optionalKeyword (by decide) (Or.inl (Padded.append_blank a hb))))

end Hook

lemma map_trim_map_trimEnd (ls : List Text) : (ls.map trimEnd).map trim = ls.map trim := by
  have htrim (l : Text) : trim (trimEnd l) = trim l :=
    apply_trimEnd fun a _ _ hb => trim_append_blank a hb
  simp only [List.map_map, Function.comp_def, htrim]

/-- The block of a declaration counts delimiters and is searched for calls, and neither sees the
blanks. -/
lemma Hook.misplaced_map_trimEnd (ls : List Text) : misplaced (ls.map trimEnd) = misplaced ls := by
  refine locate_map (fun l ls => ?_) ls
  have hextent : extent .braceOrParen ((l :: ls).map trimEnd) = extent .braceOrParen (l :: ls) := by
    rw [← extent_map_trim, map_trim_map_trimEnd, extent_map_trim]
  have hblock : blockLines .braceOrParen (trimEnd l) (ls.map trimEnd)
      = (blockLines .braceOrParen l ls).map trimEnd := by
    rw [blockLines, blockLines, ← List.map_cons, hextent, List.map_take]
  have hcalls (ls : List Text) :
      anywhere isHookCall (unlines (ls.map trim)) = anywhere isHookCall (unlines ls) :=
    apply_unlines (fun _ _ h => anywhere_eq steady_isHookCall h) ls
  rw [misplaced?, misplaced?, declaredName?_trimEnd, hblock, ← hcalls (List.map trimEnd _),
    map_trim_map_trimEnd, hcalls]

/-! ## Line ends -/

/-- Lines that differ in the blanks at their ends only. -/
def SameButTrailing (l l' : Text) : Prop :=
  ∃ code w w', l = code ++ w ∧ l' = code ++ w' ∧ isBlankText w ∧ isBlankText w'

/-- The text with a carriage return in front of every line feed. -/
def withCarriageReturns (t : Text) : Text :=
  t.flatMap fun c => if c = '\n' then ['\r', '\n'] else [c]

lemma trimEnd_append_of_isBlankText (a : Text) {w : Text} (hw : isBlankText w) :
    trimEnd (a ++ w) = trimEnd a := by
  induction w using List.reverseRecOn with
  | nil => rw [List.append_nil]
  | append_singleton w b ih =>
      rw [isBlankText, List.all_append, Bool.and_eq_true] at hw
      have hb : isBlank b := List.all_eq_true.mp hw.2 b List.mem_cons_self
      rw [← List.append_assoc, trimEnd_append_blank _ hb, ih hw.1]

lemma trimEnd_eq_of_sameButTrailing {l l' : Text} (h : SameButTrailing l l') :
    trimEnd l = trimEnd l' := by
  obtain ⟨code, w, w', rfl, rfl, hw, hw'⟩ := h
  rw [trimEnd_append_of_isBlankText code hw, trimEnd_append_of_isBlankText code hw']

lemma map_trimEnd_eq {ls ls' : List Text} (h : List.Forall₂ SameButTrailing ls ls') :
    ls.map trimEnd = ls'.map trimEnd := by
  induction h with
  | nil => rfl
  | cons hl _ ih => rw [List.map_cons, List.map_cons, trimEnd_eq_of_sameButTrailing hl, ih]

lemma SameButTrailing.cons {l l' : Text} (c : Char) (h : SameButTrailing l l') :
    SameButTrailing (c :: l) (c :: l') := by
  obtain ⟨code, w, w', rfl, rfl, hw, hw'⟩ := h
  exact ⟨c :: code, w, w', rfl, rfl, hw, hw'⟩

/-- One more character in front goes to the first line of both texts, or begins a line in both. -/
lemma forall₂_lines_cons {s t : Text} (h : List.Forall₂ SameButTrailing (lines s) (lines t))
    (c : Char) : List.Forall₂ SameButTrailing (lines (c :: s)) (lines (c :: t)) := by
  rw [lines_cons, lines_cons]
  split_ifs
  · exact .cons ⟨[], [], [], rfl, rfl, rfl, rfl⟩ h
  · generalize lines s = ls, lines t = ls' at h
    cases h with
    | nil => exact .nil
    | cons hl hls => exact .cons (hl.cons c) hls

/-- A carriage return in front of a line feed is a blank at the end of its line. -/
lemma forall₂_lines_carriageReturn {s t : Text}
    (h : List.Forall₂ SameButTrailing (lines s) (lines t)) :
    List.Forall₂ SameButTrailing (lines ('\r' :: '\n' :: s)) (lines ('\n' :: t)) := by
  rw [lines_cons, if_neg (by decide), lines_cons, if_pos rfl, lines_cons, if_pos rfl]
  exact .cons ⟨[], ['\r'], [], rfl, rfl, rfl, rfl⟩ h

lemma sameButTrailing_withCarriageReturns (t : Text) :
    List.Forall₂ SameButTrailing (lines (withCarriageReturns t)) (lines t) := by
  induction t with
  | nil => exact .cons ⟨[], [], [], rfl, rfl, rfl, rfl⟩ .nil
  | cons c t ih =>
      rw [withCarriageReturns, List.flatMap_cons]
      split_ifs with hc
      · subst hc
        exact forall₂_lines_carriageReturn ih
      · exact forall₂_lines_cons ih c

/-- **The report depends on the lines without the blanks at their ends.** -/
lemma lint_eq_of_lines {t : Thresholds} {path content content' : Text}
    (h : List.Forall₂ SameButTrailing (lines content) (lines content')) :
    lint t ⟨path, content⟩ = lint t ⟨path, content'⟩ := by
  have hend : (lines content).map trimEnd = (lines content').map trimEnd := map_trimEnd_eq h
  have htrim : (lines content).map trim = (lines content').map trim := by
    rw [← map_trim_map_trimEnd, hend, map_trim_map_trimEnd]
  have hdiagnose (r : Rule) : r.diagnose t ⟨path, content⟩ = r.diagnose t ⟨path, content'⟩ := by
    by_cases hr : r = .hookPlacement
    · have hmisplaced : Hook.misplaced (Source.lines ⟨path, content⟩)
          = Hook.misplaced (Source.lines ⟨path, content'⟩) := by
        rw [← Hook.misplaced_map_trimEnd, Source.lines, hend, Hook.misplaced_map_trimEnd]
        rfl
      have heffects : Hook.effectLines (Source.lines ⟨path, content⟩)
          = Hook.effectLines (Source.lines ⟨path, content'⟩) := effectLines_eq_of_trim htrim
      simp only [hr, Rule.diagnose, Rule.diagnoseHooks, hmisplaced, heffects]
    · exact diagnose_eq_of_trim htrim hr
  simp only [lint, Linter.issues, Linter.full, Rule.check, hdiagnose]

/-- **Blanks at the ends of lines do not change a report.**  Files whose lines differ in such blanks
only have the same issues, with the same messages; a carriage return in front of every line feed is
a case of it. -/
theorem lint_ignores_trailing_blanks (t : Thresholds) (path : Text) :
    (∀ content content' : Text,
      List.Forall₂ SameButTrailing (lines content) (lines content') →
        lint t ⟨path, content⟩ = lint t ⟨path, content'⟩) ∧
      ∀ content : Text, lint t ⟨path, withCarriageReturns content⟩ = lint t ⟨path, content⟩ :=
  ⟨fun _ _ h => lint_eq_of_lines h,
    fun content => lint_eq_of_lines (sameButTrailing_withCarriageReturns content)⟩

/-- A console call and a comment, with a space and a tab behind them or a carriage return between
them: both files have the same two issues. -/
theorem lint_ignores_trailing_blanks_call :
    let content : Text := "console.log(1); \n// x\t".toList
    let content' : Text := "console.log(1);\r\n// x".toList
    List.Forall₂ SameButTrailing (lines content) (lines content') ∧
      lint .default ⟨"a.ts".toList, content⟩ = lint .default ⟨"a.ts".toList, content'⟩ ∧
      (lint .default ⟨"a.ts".toList, content⟩).length = 2 := by
  intro content content'
  have hlines : lines content = ["console.log(1); ".toList, "// x\t".toList] := by decide
  have hlines' : lines content' = ["console.log(1);\r".toList, "// x".toList] := by decide
  have hsame : List.Forall₂ SameButTrailing (lines content) (lines content') := by
    rw [hlines, hlines']
    refine .cons ⟨"console.log(1);".toList, [' '], ['\r'], ?_⟩
      (.cons ⟨"// x".toList, ['\t'], [], ?_⟩ .nil) <;> decide
  exact ⟨hsame, (lint_ignores_trailing_blanks .default "a.ts".toList).1 content content' hsame,
    by decide +kernel⟩

end ReactLint
