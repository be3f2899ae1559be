import ReactLint.Proofs.Finding.Entry
import ReactLint.Proofs.Import.Span
import ReactLint.Proofs.Text.Identifier

/-!
# Imported names that are not used

A name is searched in the text behind its statement, put together from the lines there.  A name that
is an identifier is found just when it is an identifier of one of these lines
(`isUsed_unlines_iff`): no line break belongs to it, and its neighbours on a line are its neighbours
in the text.

The findings keep the order of the statements, so the issue that lists them stands on the line of
the first.  A name holds no comma and no newline, so the names and their lines can be read from the
message (`namesIn?_check`).
-/

namespace ReactLint

open Text

namespace Import

lemma isUsed_iff {name t : Text} : isUsed name t = true ↔ StandsAlone isIdent name t :=
  anywhere_standsAlone

lemma isUsed_iff_mem {name t : Text} (hne : name ≠ []) (hname : ∀ c ∈ name, isIdent c) :
    isUsed name t = true ↔ name ∈ identifiers t := by
  rw [isUsed_iff, mem_identifiers]
  exact ⟨fun h => ⟨hne, hname, h⟩, fun h => h.2.2⟩

/-- **A name is used just when it is an identifier of some line.** -/
lemma isUsed_unlines_iff {name : Text} (hne : name ≠ []) (hname : ∀ c ∈ name, isIdent c)
    (ls : List Text) : isUsed name (unlines ls) = true ↔ ∃ l ∈ ls, name ∈ identifiers l := by
  rw [isUsed_iff_mem hne hname, unlines, identifiers_intercalate (by decide), List.mem_flatMap]

/-- The statements of a file are put together from its lines, so the names that they bind hold no
newline. -/
lemma solid_of_mem_collect {content : Text} {s : ImportStatement}
    (hs : s ∈ ImportStatement.collect (lines content)) {name : Text} (hname : name ∈ names s.text) :
    Solid name := by
  have hline : '\n' ∉ s.text :=
    ImportStatement.newline_notMem_of_mem_collectFrom (fun _ => newline_notMem_of_mem_lines) hs
  exact solid_of_mem_names hline hname

lemma ne_nil_of_mem_names {content : Text} {s : ImportStatement}
    (hs : s ∈ ImportStatement.collect (lines content)) {name : Text} (hname : name ∈ names s.text) :
    name ≠ [] := by
  rintro rfl
  exact absurd (solid_of_mem_collect hs hname).2 (by decide)

/-- The names of a file's imports, each with the line of its statement. -/
def bound (lines : List Text) : List (Located Text) :=
  (ImportStatement.collect lines).flatMap fun s => (names s.text).map fun name => ⟨s.line, name⟩

lemma unused_sublist_bound (lines : List Text) : (unused lines).Sublist (bound lines) :=
  List.Sublist.flatMap_right _ fun _ _ => List.filter_sublist.map _

/-- A name is listed with the line of its statement just when it is not used behind it.  Only this
statement can have listed it: no other starts on the line. -/
lemma mem_unused_iff {lines : List Text} {s : ImportStatement}
    (hs : s ∈ ImportStatement.collect lines) {name : Text} (hname : name ∈ names s.text) :
    (⟨s.line, name⟩ : Located Text) ∈ unused lines
      ↔ isUsed name (unlines (lines.drop (s.lastIndex + 1))) = false := by
  simp only [unused, List.mem_flatMap, List.mem_map, List.mem_filter, Located.mk.injEq,
    Bool.not_eq_true']
  constructor
  · rintro ⟨s', hs', name', ⟨-, hunused⟩, hline, rfl⟩
    rwa [← ImportStatement.eq_of_line_eq hs' hs hline]
  · intro hunused
    exact ⟨s, hs, name, ⟨hname, hunused⟩, rfl, rfl⟩

lemma check_unusedImports (t : Thresholds) (s : Source) :
    Rule.unusedImports.check t s = ((unused s.lines).head?.map fun first =>
      (⟨first.line, (Diagnosis.unusedImports (unused s.lines)).message, .warn, "unused-import",
        false⟩ : Issue)).toList := by
  have hissues := issues_of_sorted (d := .unusedImports (unused s.lines)) rfl
    (unused_inOrder s.lines).sorted
  have hanchors : (Diagnosis.unusedImports (unused s.lines)).anchors
      = (unused s.lines).map Located.line := rfl
  show (Diagnosis.unusedImports (unused s.lines)).issues ++ [] = _
  rw [List.append_nil, hissues, hanchors, List.head?_map, Option.map_map]
  rfl

lemma newline_notMem_of_mem_unused {content : Text} {f : Located Text}
    (h : f ∈ unused (lines content)) : '\n' ∉ f.item := by
  obtain ⟨s, hs, hf⟩ := List.mem_flatMap.mp ((unused_sublist_bound _).subset h)
  obtain ⟨name, hname, rfl⟩ := List.mem_map.mp hf
  exact (solid_of_mem_collect hs hname).1.1

/-- **The names are read from the message**: those that are unused, each with its line. -/
lemma namesIn?_check {t : Thresholds} {path content : Text} {i : Issue}
    (hi : i ∈ Rule.unusedImports.check t ⟨path, content⟩) :
    namesIn? i.message = some (unused (lines content)) := by
  rw [check_unusedImports, Option.mem_toList, Option.map_eq_some_iff] at hi
  obtain ⟨first, hfirst, rfl⟩ := hi
  have hne : unused (lines content) ≠ [] := List.ne_nil_of_mem (List.mem_of_mem_head? hfirst)
  refine Diagnosis.namesIn?_unusedImports hne fun f hf => ?_
  exact ⟨comma_notMem_of_mem_unused hf, newline_notMem_of_mem_unused hf⟩

/-- **Unused imports are listed exactly.**  A name that an import binds, if it is made of identifier
characters, is listed with the line of its statement just when it is no identifier of any line
behind the statement.  The names are listed in the order of the statements, on lines that do not
decrease.  There is an issue just when a name is listed, on the line of the first, and its message
reads as these names with their lines. -/
theorem unused_listed_exactly (t : Thresholds) (path content : Text) :
    let lines := Text.lines content
    let found := unused lines
    (∀ s ∈ ImportStatement.collect lines, ∀ name ∈ names s.text, (∀ c ∈ name, isIdent c) →
        ((⟨s.line, name⟩ : Located Text) ∈ found
          ↔ ∀ l ∈ lines.drop (s.lastIndex + 1), name ∉ identifiers l)) ∧
      found.Sublist (bound lines) ∧
      (found.map Located.line).Pairwise (· ≤ ·) ∧
      Rule.unusedImports.check t ⟨path, content⟩ = (found.head?.map fun first =>
        (⟨first.line, (Diagnosis.unusedImports found).message, .warn, "unused-import",
          false⟩ : Issue)).toList ∧
      ∀ i ∈ Rule.unusedImports.check t ⟨path, content⟩, namesIn? i.message = some found := by
  intro lines found
  refine ⟨?_, unused_sublist_bound lines, (unused_inOrder lines).sorted,
    check_unusedImports t ⟨path, content⟩, fun i => namesIn?_check⟩
  intro s hs name hname hident
  have hused := isUsed_unlines_iff (ne_nil_of_mem_names hs hname) hident
    (lines.drop (s.lastIndex + 1))
  rw [mem_unused_iff hs hname, Bool.eq_false_iff, Ne, hused]
  simp only [not_exists, not_and]

end Import

end ReactLint
