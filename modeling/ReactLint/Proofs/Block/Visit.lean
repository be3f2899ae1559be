import ReactLint.Proofs.Block.Cover
import ReactLint.Proofs.Finding.Entry

/-!
# Blocks that are reported

Two rules report blocks that are visited from the top: `try` blocks, when there are many in a file,
and returned markup, when a block of it is long.  Their issues are stated through the lines visited,
and so is what can be read from the messages: how many `try` blocks there are and on which lines
they start, and where each long block of markup starts and how many lines it has.
-/

namespace ReactLint

open Text

/-! ## Issues -/

lemma check_tryBlocks (t : Thresholds) (s : Source) :
    let vs := visited opensTry .brace s.lines
    Rule.tryBlocks.check t s =
      if 3 ≤ vs.length then
        [⟨1, (Diagnosis.tryBlocks (vs.map (· + 1))).message, .warn, "duplicate-pattern", true⟩]
      else [] := by
  intro vs
  have hlines : (tryBlocks s.lines).map Located.line = vs.map (· + 1) := by
    rw [tryBlocks, visited_eq, List.map_map]
    rfl
  have hlength : (tryBlocks s.lines).length = vs.length := by
    simpa using congrArg List.length hlines
  rw [Rule.check, Rule.diagnose, Rule.diagnoseTry, hlines, hlength]
  by_cases hfew : vs.length < 3
  · rw [if_pos hfew, if_neg (Nat.not_le_of_lt hfew), List.flatMap_nil]
  · rw [if_neg hfew, if_pos (Nat.le_of_not_lt hfew), List.flatMap_singleton]
    rfl

lemma check_markupSize (t : Thresholds) (s : Source) :
    let size := fun v : Nat => blockEnd .paren s.lines v - v + 1
    let large := ((visited returnsMarkup .paren s.lines).filter fun v =>
      t.markupLines < (size v : Int)).map fun v => (⟨v + 1, size v⟩ : Located Nat)
    Rule.markupSize.check t s =
      if isComponentFile s.path then
        (large.head?.map fun b =>
          (⟨b.line, (Diagnosis.largeMarkup large).message, .warn, "large-jsx", false⟩ :
            Issue)).toList
      else [] := by
  intro size large
  have hlarge :
      ((markupBlocks s.lines).filter fun b => t.markupLines < (b.item : Int)) = large := by
    rw [markupBlocks, visited_eq, List.filter_map]
    rfl
  have hsorted : (large.map Located.line).Pairwise (· ≤ ·) := by
    rw [← hlarge]
    exact ((coverFrom_inOrder _ _ 1 0 s.lines).sublist (List.filter_sublist.map _)).sorted
  rw [Rule.check, Rule.diagnose, Rule.diagnoseMarkup, hlarge]
  split_ifs
  · have hanchors : (Diagnosis.largeMarkup large).anchors = large.map Located.line := rfl
    rw [List.flatMap_singleton, issues_of_sorted (d := .largeMarkup large) rfl hsorted, hanchors,
      List.head?_map, Option.map_map]
    rfl
  · rfl

/-! ## Messages -/

/-- **The `try` blocks visited are read from the message**, and their number. -/
lemma enumerated_check_tryBlocks {t : Thresholds} {s : Source} {i : Issue}
    (hi : i ∈ Rule.tryBlocks.check t s) :
    let vs := visited opensTry .brace s.lines
    enumerated i.message = vs.map (· + 1) ∧ countIn? i.message.toList = some vs.length := by
  intro vs
  rw [check_tryBlocks, List.mem_ite_nil_right, List.mem_singleton] at hi
  obtain ⟨hmany, rfl⟩ := hi
  have hne : vs.map (· + 1) ≠ [] := by
    rw [← List.length_pos_iff, List.length_map]
    exact Nat.lt_of_lt_of_le (by decide) hmany
  have hworded := Diagnosis.worded_message (d := .tryBlocks (vs.map (· + 1))) hne trivial
  refine ⟨hworded.enumerated_eq hne, hworded.countIn?_eq.trans ?_⟩
  exact congrArg some (List.length_map _)

/-- **The large blocks of markup are read from the message**, each with its number of lines. -/
lemma sizesIn?_check_markupSize {t : Thresholds} {s : Source} {i : Issue}
    (hi : i ∈ Rule.markupSize.check t s) :
    let size := fun v : Nat => blockEnd .paren s.lines v - v + 1
    let large := ((visited returnsMarkup .paren s.lines).filter fun v =>
      t.markupLines < (size v : Int)).map fun v => (⟨v + 1, size v⟩ : Located Nat)
    sizesIn? i.message = some large := by
  intro size large
  rw [check_markupSize, List.mem_ite_nil_right, Option.mem_toList, Option.map_eq_some_iff] at hi
  obtain ⟨-, first, hfirst, rfl⟩ := hi
  exact Diagnosis.sizesIn?_largeMarkup (List.ne_nil_of_mem (List.mem_of_mem_head? hfirst))

/-- **Blocks are visited as a greedy cover.**  The first line visited is the first that starts a
block, and each later one is the first that starts a block behind the end of the block before.  The
blocks visited do not meet, and a line that starts a block lies in exactly one of them.  The loop
that skips over blocks finds them and their numbers of lines, in no more rounds than there are
lines.

`try` blocks are reported when three or more are visited, and all of those are listed: the message
reads as their number and their lines.  Returned markup is reported in a component file when a block
visited has more lines than the limit, and just these blocks are listed: the message reads as their
lines with their numbers of lines. -/
theorem blocks_visited_greedily :
    (∀ (isStart : Text → Bool) (d : Delimiter) (lines : List Text),
      let last := fun v : Nat => blockEnd d lines v
      let vs := visited isStart d lines
      let ended := (CoverLoop.step isStart d lines)^[lines.length] ⟨0, []⟩
      IsGreedyCover (startsOf isStart lines) last vs ∧
        cover isStart d lines = vs.map (fun v => ⟨v + 1, last v - v + 1⟩) ∧
        lines.length ≤ ended.index ∧ ended.found = cover isStart d lines) ∧
    ∀ (t : Thresholds) (s : Source),
      let tries := visited opensTry .brace s.lines
      let size := fun v : Nat => blockEnd .paren s.lines v - v + 1
      let large := ((visited returnsMarkup .paren s.lines).filter fun v =>
        t.markupLines < (size v : Int)).map fun v => (⟨v + 1, size v⟩ : Located Nat)
      (Rule.tryBlocks.check t s =
        if 3 ≤ tries.length then
          [⟨1, (Diagnosis.tryBlocks (tries.map (· + 1))).message, .warn, "duplicate-pattern", true⟩]
        else []) ∧
      (∀ i ∈ Rule.tryBlocks.check t s,
        enumerated i.message = tries.map (· + 1) ∧
          countIn? i.message.toList = some tries.length) ∧
      (Rule.markupSize.check t s =
        if isComponentFile s.path then
          (large.head?.map fun b =>
            (⟨b.line, (Diagnosis.largeMarkup large).message, .warn, "large-jsx", false⟩ :
              Issue)).toList
        else []) ∧
      ∀ i ∈ Rule.markupSize.check t s, sizesIn? i.message = some large := by
  refine ⟨?_, fun t s => ⟨check_tryBlocks t s, fun i => enumerated_check_tryBlocks,
    check_markupSize t s, fun i => sizesIn?_check_markupSize⟩⟩
  intro isStart d lines last vs ended
  have hlast : ∀ t ∈ startsOf isStart lines, t ≤ last t := by
    intro t ht
    exact le_blockEnd (lt_of_mem_startsOf ht)
  have hgreedy := greedy_coverBelow isStart d lines 0
  have hloop : lines.length ≤ ended.index ∧ ended.found = cover isStart d lines :=
    CoverLoop.iterate_step lines.length ⟨0, []⟩ (Nat.le_add_left _ _)
  exact ⟨hgreedy.isGreedyCover hlast, visited_eq isStart d lines, hloop⟩

end ReactLint
