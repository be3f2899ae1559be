import Mathlib.Data.List.Nodup
import ReactLint.Proofs.Import.Name
import ReactLint.Proofs.Text.Token

/-!
# The lines that import statements take up

The statements of a file take up stretches of its lines that do not meet.

**One statement.**  A statement goes on from its first line until the join of its lines has a `from`
clause.  There is exactly one way to do so (`Completes`), and `gather` does it.

**All statements.**  Reading on from line to line there are two steps: a line that starts no import
is passed over, and an import takes its first line together with the lines that complete it
(`Collected`).  What holds of the statements of a file is shown along these steps.
-/

namespace ReactLint

open Text

namespace Text

/-- The join of the trimmed lines, with one space between them. -/
def joinTrimmed (ls : List Text) : Text := [' '].intercalate (ls.map trim)

lemma intercalate_append (sep : Text) {xs ys : List Text} (hxs : xs ≠ []) (hys : ys ≠ []) :
    sep.intercalate (xs ++ ys) = sep.intercalate xs ++ sep ++ sep.intercalate ys := by
  induction xs with
  | nil => exact absurd rfl hxs
  | cons x xs ih =>
      cases xs with
      | nil => rw [List.singleton_append, List.intercalate_cons_of_ne_nil hys,
          List.intercalate_singleton]
      | cons x' xs =>
          rw [List.cons_append, List.cons_append, List.intercalate_cons_cons, ← List.cons_append,
            ih (List.cons_ne_nil _ _), List.intercalate_cons_cons]
          simp only [List.append_assoc]

/-- Two groups of lines are joined by one more space. -/
lemma joinTrimmed_append {xs ys : List Text} (hxs : xs ≠ []) (hys : ys ≠ []) :
    joinTrimmed (xs ++ ys) = joinTrimmed xs ++ ' ' :: joinTrimmed ys := by
  rw [joinTrimmed, List.map_append, intercalate_append _ (by simpa using hxs) (by simpa using hys),
    List.append_assoc, List.singleton_append, joinTrimmed, joinTrimmed]

@[simp] lemma joinTrimmed_singleton (l : Text) : joinTrimmed [l] = trim l :=
  List.intercalate_singleton

/-- The lines from index `first` to index `last`. -/
def linesBetween (lines : List Text) (first last : Nat) : List Text :=
  (lines.drop first).take (last + 1 - first)

lemma linesBetween_append (above below : List Text) (k : Nat) :
    linesBetween (above ++ below) above.length (above.length + k) = below.take (k + 1) := by
  rw [linesBetween, List.drop_left, Nat.add_assoc, Nat.add_sub_cancel_left]

end Text

namespace ImportStatement

/-! ## Where a statement starts -/

/-- A line that starts an import of names.  Its text begins with `import` and a blank, and what
comes behind the blanks is no quoted module: that would be imported for its side effects. -/
def StartsImport (l : Text) : Prop :=
  (∃ b t, trim l = "import".toList ++ b :: t ∧ isBlank b) ∧
    ¬ ∃ w q t, trim l = "import".toList ++ w ++ q :: t ∧ w ≠ [] ∧ isBlankText w ∧ isQuote q

lemma trimStart_blank_append {w : Text} (hw : isBlankText w) (t : Text) :
    trimStart (w ++ t) = trimStart t := by
  rw [trimStart, List.dropWhile_append_of_pos (fun c hc => List.all_eq_true.mp hw c hc), trimStart]

/-- **Where a statement starts**, said of the line as it is and not of the trimmed one. -/
lemma isStart_iff {l : Text} : isStart (trim l) = true ↔ StartsImport l := by
  rw [isStart, Option.any_eq_true]
  constructor
  · rintro ⟨r, hr, hquote⟩
    obtain ⟨b, u, hl, hb, rfl⟩ := keyword?_eq_some_iff.mp hr
    refine ⟨⟨b, u, hl, hb⟩, ?_⟩
    rintro ⟨w, q, t, ht, hne, hw, hq⟩
    obtain ⟨b', w, rfl⟩ := List.exists_cons_of_ne_nil hne
    rw [hl, List.append_assoc, List.append_cancel_left_eq, List.cons_append] at ht
    obtain ⟨rfl, rfl⟩ := List.cons.inj ht
    rw [isBlankText, List.all_cons, Bool.and_eq_true] at hw
    -- a quotation mark is no blank, so the blanks end in front of it
    have hvisible : ¬ isBlank q := fun hblank => by simp [visible_isQuote q hblank] at hq
    rw [trimStart_blank_append hw.2, trimStart, List.dropWhile_cons_of_neg hvisible] at hquote
    simp [hq] at hquote
  · rintro ⟨⟨b, u, hl, hb⟩, hside⟩
    refine ⟨trimStart u, keyword?_eq_some_iff.mpr ⟨b, u, hl, hb, rfl⟩, ?_⟩
    cases hrest : trimStart u with
    | nil => rfl
    | cons q t =>
        rw [List.head?_cons, Option.any_some, Bool.not_eq_true', Bool.eq_false_iff]
        intro hq
        refine hside ⟨b :: u.takeWhile isBlank, q, t, ?_, List.cons_ne_nil _ _, ?_, hq⟩
        · rw [hl, ← hrest, List.append_assoc, List.cons_append, trimStart,
            List.takeWhile_append_dropWhile]
        · simp [isBlankText, hb]

/-! ## One statement -/

lemma hasFrom_iff {t : Text} : hasFrom t = true ↔ " from ".toList <:+: t := occurs_iff

/-- The statement that has the lines `block` goes on for the lines `more`, and not into `rest`. -/
structure Completes (block more rest : List Text) : Prop where
  unfinished : ∀ k < more.length, ¬ " from ".toList <:+: joinTrimmed (block ++ more.take k)
  finished : rest = [] ∨ " from ".toList <:+: joinTrimmed (block ++ more)

/-- Every statement is completed: by the lines up to a `from` clause, or by all that are left. -/
lemma exists_completes (block ls : List Text) :
    ∃ more rest, ls = more ++ rest ∧ Completes block more rest := by
  induction ls generalizing block with
  | nil => exact ⟨[], [], rfl, fun k hk => absurd hk (Nat.not_lt_zero k), Or.inl rfl⟩
  | cons l ls ih =>
      by_cases hfrom : " from ".toList <:+: joinTrimmed block
      · refine ⟨[], l :: ls, rfl, fun k hk => absurd hk (Nat.not_lt_zero k), Or.inr ?_⟩
        rwa [List.append_nil]
      · obtain ⟨more, rest, rfl, hspan⟩ := ih (block ++ [l])
        refine ⟨l :: more, rest, rfl, fun k hk => ?_, ?_⟩
        · cases k with
          | zero => rwa [List.take_zero, List.append_nil]
          | succ k =>
              rw [List.take_succ_cons, List.append_cons]
              exact hspan.unfinished k (Nat.lt_of_succ_lt_succ hk)
        · rw [List.append_cons]
          exact hspan.finished

/-- **`gather` completes a statement.** -/
lemma gather_of_completes {block more rest : List Text} (hne : block ≠ [])
    (h : Completes block more rest) :
    gather (joinTrimmed block) (more ++ rest) = (joinTrimmed (block ++ more), more.length) := by
  induction more generalizing block with
  | nil =>
      rw [List.append_nil, List.nil_append]
      cases rest with
      | nil => rfl
      | cons l rest =>
          have hfrom := h.finished.resolve_left (List.cons_ne_nil l rest)
          rw [List.append_nil, ← hasFrom_iff] at hfrom
          rw [gather, if_pos hfrom]
          rfl
  | cons l more ih =>
      have hfrom : ¬ hasFrom (joinTrimmed block) = true := by
        have := h.unfinished 0 (Nat.succ_pos _)
        rwa [List.take_zero, List.append_nil, ← hasFrom_iff] at this
      have hspan : Completes (block ++ [l]) more rest := by
        refine ⟨fun k hk => ?_, ?_⟩
        · have := h.unfinished (k + 1) (Nat.succ_lt_succ hk)
          rwa [List.take_succ_cons, List.append_cons] at this
        · rw [← List.append_cons]
          exact h.finished
      have hjoin : joinTrimmed block ++ ' ' :: trim l = joinTrimmed (block ++ [l]) := by
        rw [joinTrimmed_append hne (List.cons_ne_nil _ _), joinTrimmed_singleton]
      rw [List.cons_append, gather, if_neg hfrom, hjoin,
        ih (List.append_ne_nil_of_right_ne_nil _ (List.cons_ne_nil _ _)) hspan, ← List.append_cons]
      rfl

/-! ## All statements -/

lemma collectFrom_skip (i : Nat) (skipped ls : List Text) :
    collectFrom i skipped.length (skipped ++ ls) = collectFrom (i + skipped.length) 0 ls := by
  induction skipped generalizing i with
  | nil => rfl
  | cons l skipped ih =>
      rw [List.length_cons, List.cons_append, collectFrom, ih, Nat.add_right_comm, Nat.add_assoc]

lemma collectFrom_of_not_starts (i : Nat) {l : Text} (hl : ¬ StartsImport l) (ls : List Text) :
    collectFrom i 0 (l :: ls) = collectFrom (i + 1) 0 ls := by
  rw [← isStart_iff] at hl
  rw [collectFrom, if_neg hl]

/-- The lines that complete a statement are skipped, and the next statement is looked for behind
them. -/
lemma collectFrom_of_starts (i : Nat) {l : Text} {more rest : List Text} (hl : StartsImport l)
    (hspan : Completes [l] more rest) :
    collectFrom i 0 (l :: (more ++ rest))
      = ⟨joinTrimmed (l :: more), i + 1, i + more.length⟩ ::
          collectFrom (i + 1 + more.length) 0 rest := by
  have hgather := gather_of_completes (List.cons_ne_nil _ _) hspan
  rw [joinTrimmed_singleton] at hgather
  rw [← isStart_iff] at hl
  rw [collectFrom, if_pos hl, hgather]
  exact congrArg _ (collectFrom_skip (i + 1) more rest)

/-- `ss` are the statements of the lines `ls` that follow the lines `above`.  A line that starts
none is passed over, and an import goes on until it is complete. -/
inductive Collected : List Text → List Text → List ImportStatement → Prop
  | nil (above : List Text) : Collected above [] []
  | pass {above : List Text} {l : Text} {ls : List Text} {ss : List ImportStatement}
      (hl : ¬ StartsImport l) (h : Collected (above ++ [l]) ls ss) : Collected above (l :: ls) ss
  | statement {above : List Text} {l : Text} {more rest : List Text} {ss : List ImportStatement}
      (hl : StartsImport l) (hspan : Completes [l] more rest)
      (h : Collected (above ++ l :: more) rest ss) :
      Collected above (l :: (more ++ rest))
        (⟨joinTrimmed (l :: more), above.length + 1, above.length + more.length⟩ :: ss)

/-- **Collecting takes just these steps.**  By induction on the lines that are left. -/
lemma collected_collectFrom (above ls : List Text) :
    Collected above ls (collectFrom above.length 0 ls) := by
  match ls with
  | [] => exact .nil above
  | l :: ls =>
      by_cases hl : StartsImport l
      · obtain ⟨more, rest, rfl, hspan⟩ := exists_completes [l] ls
        have hrest := collected_collectFrom (above ++ l :: more) rest
        rw [List.length_append, List.length_cons, Nat.add_comm more.length, ← Nat.add_assoc]
          at hrest
        rw [collectFrom_of_starts _ hl hspan]
        exact .statement hl hspan hrest
      · have hrest := collected_collectFrom (above ++ [l]) ls
        rw [List.length_append, List.length_singleton] at hrest
        rw [collectFrom_of_not_starts _ hl]
        exact .pass hl hrest
termination_by ls.length

lemma collected_collect (ls : List Text) : Collected [] ls (collect ls) :=
  collected_collectFrom [] ls

/-- The index of a statement's first line. -/
def firstIndex (s : ImportStatement) : Nat := s.line - 1

/-- What a statement of the file with these lines takes up. -/
structure Spans (lines : List Text) (s : ImportStatement) : Prop where
  line_pos : 1 ≤ s.line
  first_le_last : s.firstIndex ≤ s.lastIndex
  last_lt : s.lastIndex < lines.length
  starts : ∃ l, lines[s.firstIndex]? = some l ∧ StartsImport l
  text_eq : s.text = joinTrimmed (linesBetween lines s.firstIndex s.lastIndex)
  /-- No shorter join from the same line has a `from` clause. -/
  minimal : ∀ last < s.lastIndex,
    ¬ " from ".toList <:+: joinTrimmed (linesBetween lines s.firstIndex last)
  /-- A statement without a `from` clause goes on to the end of the file. -/
  complete : ¬ " from ".toList <:+: s.text → s.lastIndex + 1 = lines.length

namespace Collected

variable {above ls : List Text} {ss : List ImportStatement}

lemma line_gt (h : Collected above ls ss) : ∀ s ∈ ss, above.length < s.line := by
  induction h with
  | nil => simp
  | pass _ _ ih =>
      intro s hs
      have := ih s hs
      rw [List.length_append] at this
      omega
  | statement _ _ _ ih =>
      intro s hs
      rcases List.mem_cons.mp hs with rfl | hs
      · exact Nat.lt_succ_self _
      · have := ih s hs
        rw [List.length_append] at this
        omega

/-- **Statements do not meet**: each ends before the next one starts. -/
lemma ordered (h : Collected above ls ss) :
    ss.Pairwise fun s s' => s.lastIndex < s'.firstIndex := by
  induction h with
  | nil => exact List.Pairwise.nil
  | pass _ _ ih => exact ih
  | @statement above l more rest ss hl hspan h ih =>
      refine List.pairwise_cons.mpr ⟨fun s hs => ?_, ih⟩
      have hline := h.line_gt s hs
      rw [List.length_append, List.length_cons] at hline
      show above.length + more.length < s.line - 1
      omega

/-- Each statement takes up the lines that it was joined of. -/
lemma spans (h : Collected above ls ss) : ∀ s ∈ ss, s.Spans (above ++ ls) := by
  induction h with
  | nil => simp
  | pass _ _ ih => rwa [List.append_assoc] at ih
  | @statement above l more rest ss hl hspan h ih =>
      intro s hs
      rcases List.mem_cons.mp hs with rfl | hs
      · have hbetween (k : Nat) (hk : k ≤ more.length) :
            linesBetween (above ++ l :: (more ++ rest)) above.length (above.length + k)
              = l :: more.take k := by
          rw [linesBetween_append, List.take_succ_cons, List.take_append_of_le_length hk]
        refine ⟨Nat.succ_pos _, Nat.le_add_right _ _, ?_, ⟨l, ?_, hl⟩, ?_, ?_, ?_⟩
        · simp only [List.length_append, List.length_cons]
          omega
        · simp [firstIndex]
        · exact congrArg joinTrimmed ((hbetween _ (Nat.le_refl _)).trans (by simp)).symm
        · intro last hlast
          show ¬ _ <:+: joinTrimmed (linesBetween _ above.length last)
          rcases Nat.lt_or_ge last above.length with hbefore | hbehind
          · rw [linesBetween, Nat.sub_eq_zero_of_le hbefore, List.take_zero]
            decide
          · obtain ⟨k, rfl⟩ := Nat.exists_eq_add_of_le hbehind
            have hk : k < more.length := Nat.lt_of_add_lt_add_left hlast
            rw [hbetween k (Nat.le_of_lt hk)]
            exact hspan.unfinished k hk
        · intro hfrom
          rw [hspan.finished.resolve_right hfrom]
          simp only [List.length_append, List.length_cons, List.append_nil]
          omega
      · have := ih s hs
        rwa [List.append_assoc, List.cons_append] at this

/-- A line that starts an import is the first of a statement or lies in one that starts above. -/
lemma covers (h : Collected above ls ss) {i : Nat} (hi : above.length ≤ i) {l : Text}
    (hget : (above ++ ls)[i]? = some l) (hl : StartsImport l) :
    ∃ s ∈ ss, s.line = i + 1 ∨ s.firstIndex < i ∧ i ≤ s.lastIndex := by
  induction h with
  | nil =>
      rw [List.append_nil, List.getElem?_eq_none hi] at hget
      exact absurd hget (Option.some_ne_none l).symm
  | @pass above l' ls ss hl' h ih =>
      have hne : i ≠ above.length := by
        rintro rfl
        rw [List.getElem?_append_right hi, Nat.sub_self, List.getElem?_cons_zero] at hget
        exact hl' (Option.some.inj hget ▸ hl)
      refine ih ?_ (by rwa [List.append_assoc])
      rw [List.length_append, List.length_singleton]
      omega
  | @statement above l' more rest ss hl' hspan h ih =>
      rcases Nat.lt_or_ge (above.length + more.length) i with hbehind | hinside
      · have hlength : (above ++ l' :: more).length ≤ i := by
          rw [List.length_append, List.length_cons]
          omega
        obtain ⟨s, hs, hcovered⟩ := ih hlength (by rwa [List.append_assoc, List.cons_append])
        exact ⟨s, List.mem_cons_of_mem _ hs, hcovered⟩
      · refine ⟨_, List.mem_cons_self, ?_⟩
        show above.length + 1 = i + 1 ∨ above.length < i ∧ i ≤ above.length + more.length
        omega

end Collected

lemma spans_of_mem_collect {lines : List Text} {s : ImportStatement} (h : s ∈ collect lines) :
    s.Spans lines :=
  (collected_collect lines).spans s h

/-- No two statements of a file start on the same line. -/
lemma eq_of_line_eq {lines : List Text} {s s' : ImportStatement} (hs : s ∈ collect lines)
    (hs' : s' ∈ collect lines) (hline : s.line = s'.line) : s = s' := by
  have hnodup : ((collect lines).map line).Nodup := by
    rw [List.Nodup, List.pairwise_map]
    refine (collected_collect lines).ordered.imp_of_mem ?_
    intro s s' hs _ hlt heq
    have hle := (spans_of_mem_collect hs).first_le_last
    rw [firstIndex, ← heq] at hlt
    exact absurd hle (Nat.not_le_of_lt hlt)
  exact List.inj_on_of_nodup_map hnodup hs hs' hline

/-- **Imports partition the lines they stand on.**  A statement begins on a line that starts an
import; its text is the join of its lines, none of which it could do without, and it has a `from`
clause unless it goes on to the end of the file.  The statements follow each other without meeting.
None is lost: a line that starts an import is the first line of exactly one statement, or it lies in
a statement that begins above it. -/
theorem collect_partitions (lines : List Text) :
    (∀ s ∈ collect lines, s.Spans lines) ∧
      (collect lines).Pairwise (fun s s' => s.lastIndex < s'.firstIndex) ∧
      ∀ i l, lines[i]? = some l → StartsImport l →
        (∃! s, s ∈ collect lines ∧ s.line = i + 1) ∨
          ∃ s ∈ collect lines, s.firstIndex < i ∧ i ≤ s.lastIndex := by
  refine ⟨fun s hs => spans_of_mem_collect hs, (collected_collect lines).ordered, ?_⟩
  intro i l hget hl
  obtain ⟨s, hs, hfirst | hinside⟩ := (collected_collect lines).covers (Nat.zero_le i) hget hl
  · refine Or.inl ⟨s, ⟨hs, hfirst⟩, ?_⟩
    rintro s' ⟨hs', hfirst'⟩
    exact eq_of_line_eq hs' hs (hfirst'.trans hfirst.symm)
  · exact Or.inr ⟨s, hs, hinside⟩

end ImportStatement

end ReactLint
