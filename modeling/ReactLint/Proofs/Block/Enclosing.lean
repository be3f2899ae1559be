import Mathlib.Data.List.Induction
import ReactLint.Block.Catch
import ReactLint.Proofs.Block.Matcher
import ReactLint.Proofs.Text.Place

/-!
# Braces around a position

`insideCatch` walks back from a position, counts closing braces, and asks of every opening brace
that it meets unclosed whether the word `catch` stands before it and whether its block, measured
forward, reaches the position.  The usual way to find the braces around a position is to read from
the top with a stack.  This file shows that both find the same.

**The stack.**  `openAt` pushes the position of an opening brace and pops at a closing one; a
closing brace on an empty stack is passed over.

**The walk is the stack.**  Walking back over a text with `depth` closing braces pending meets the
stack of that text without its first `depth` entries (`walk_eq_stack`).  Going line by line, the
whole walk meets the whole stack (`metFrom_eq_openAt`).

**The forward check always succeeds.**  The braces pending below a line are at least as many as the
lines between close on balance.  A line with more open braces than are pending therefore starts a
block that is still open at the position (`Reaches`, `metAbove_reaches`), so nothing that the walk
meets is rejected.
-/

namespace ReactLint

open Text

/-! ## The stack of open braces -/

/-- Where a brace stands: the index of its line and its column there. -/
structure BracePosition where
  line : Nat
  column : Nat
  deriving DecidableEq, Repr

/-- The stack after the character `c` at `p`, the innermost brace first. -/
def braceStep (p : BracePosition) (c : Char) (stack : List BracePosition) : List BracePosition :=
  if c = '{' then p :: stack else if c = '}' then stack.tail else stack

/-- The stack after a text on line `n` that starts at column `k`. -/
def stackText (n k : Nat) (stack : List BracePosition) : Text → List BracePosition
  | [] => stack
  | c :: cs => stackText n (k + 1) (braceStep ⟨n, k⟩ c stack) cs

/-- The stack after the lines, the first of which has index `n`; comment lines are skipped. -/
def stackLines (n : Nat) (stack : List BracePosition) : List Text → List BracePosition
  | [] => stack
  | l :: ls => stackLines (n + 1) (stackText n 0 stack (codeOf l)) ls

/-- The braces that are open at column `column` of line `index`. -/
def openAt (lines : List Text) (index : Nat) (column : Int) : List BracePosition :=
  stackLines 0 [] (lines.take index ++ [upTo column (lines.getD index [])])

/-- What stands before a brace on its line. -/
def BracePosition.before (lines : List Text) (p : BracePosition) : Text :=
  (lines.getD p.line []).take p.column

lemma stackText_append_singleton (n k : Nat) (stack : List BracePosition) (t : Text) (c : Char) :
    stackText n k stack (t ++ [c]) = braceStep ⟨n, k + t.length⟩ c (stackText n k stack t) := by
  induction t generalizing k stack with
  | nil => rfl
  | cons e t ih =>
      rw [List.cons_append, stackText, ih, stackText, List.length_cons,
        show k + 1 + t.length = k + (t.length + 1) by omega]

lemma stackLines_append_singleton (n : Nat) (stack : List BracePosition) (ls : List Text)
    (l : Text) :
    stackLines n stack (ls ++ [l])
      = stackText (n + ls.length) 0 (stackLines n stack ls) (codeOf l) := by
  induction ls generalizing n stack with
  | nil => rfl
  | cons e ls ih =>
      rw [List.cons_append, stackLines, ih, stackLines, List.length_cons,
        show n + 1 + ls.length = n + (ls.length + 1) by omega]

/-- The clamped depth of a text is the size of its stack. -/
lemma length_stackText (n k : Nat) (stack : List BracePosition) (t : Text) :
    (stackText n k stack t).length = t.foldl Delimiter.brace.clampedStep stack.length := by
  induction t generalizing k stack with
  | nil => rfl
  | cons c t ih =>
      rw [stackText, ih, List.foldl_cons]
      congr 1
      simp only [braceStep, Delimiter.clampedStep, Delimiter.isOpen, Delimiter.isClose,
        beq_iff_eq]
      split_ifs <;> simp

/-! ## The walk back -/

/-- The braces that the walk meets on line `n`, given the reversed texts before them. -/
def positionsOn (n : Nat) (found : List Text) : List BracePosition :=
  found.map fun before => ⟨n, before.length⟩

/-- The braces that the walk meets on the lines `above`, nearest first, with `depth` closing braces
pending. -/
def metAbove (depth : Nat) : List Text → List BracePosition
  | [] => []
  | l :: above =>
    positionsOn above.length (openBracesOn depth l).2 ++ metAbove (openBracesOn depth l).1 above

/-- The braces that the walk from column `column` of line `index` meets. -/
def metFrom (lines : List Text) (index : Nat) (column : Int) : List BracePosition :=
  let here := openBracesOn 0 (upTo column (lines.getD index []))
  positionsOn index here.2 ++ metAbove here.1 (lines.take index).reverse

lemma openBraces_close (depth : Nat) (cs : Text) :
    openBraces depth ('}' :: cs) = openBraces (depth + 1) cs := by
  rw [openBraces.eq_def]
  simp

lemma openBraces_open_zero (cs : Text) :
    openBraces 0 ('{' :: cs) = ((openBraces 0 cs).1, cs :: (openBraces 0 cs).2) := by
  rw [openBraces.eq_def]
  simp

lemma openBraces_open_succ (depth : Nat) (cs : Text) :
    openBraces (depth + 1) ('{' :: cs) = openBraces depth cs := by
  rw [openBraces.eq_def]
  simp

lemma openBraces_other {c : Char} (hclose : c ≠ '}') (hopen : c ≠ '{') (depth : Nat) (cs : Text) :
    openBraces depth (c :: cs) = openBraces depth cs := by
  rw [openBraces.eq_def]
  simp [hclose, hopen]

/-- **One text, both ways.**  Reading a text forward from any stack, and walking back over it with
`depth` closing braces pending.  The induction takes characters off the end, which is where the walk
starts. -/
lemma walk_eq_stack (n depth : Nat) (stack : List BracePosition) (t : Text) :
    positionsOn n (openBraces depth t.reverse).2 ++ stack.drop (openBraces depth t.reverse).1
      = (stackText n 0 stack t).drop depth := by
  induction t using List.reverseRecOn generalizing depth with
  | nil => simp [openBraces, positionsOn, stackText]
  | append_singleton t c ih =>
      rw [List.reverse_append, List.reverse_singleton, List.singleton_append,
        stackText_append_singleton, braceStep, Nat.zero_add]
      by_cases hclose : c = '}'
      · subst hclose
        rw [openBraces_close, if_neg (by decide), if_pos rfl, ih, List.drop_tail]
      · by_cases hopen : c = '{'
        · subst hopen
          rw [if_pos rfl]
          cases depth with
          | zero => simpa [openBraces_open_zero, positionsOn] using ih 0
          | succ depth => rw [openBraces_open_succ, List.drop_succ_cons, ih]
        · rw [openBraces_other hclose hopen, if_neg hopen, if_neg hclose, ih]

lemma walkOn_eq_stack (n depth : Nat) (stack : List BracePosition) (l : Text) :
    positionsOn n (openBracesOn depth l).2 ++ stack.drop (openBracesOn depth l).1
      = (stackText n 0 stack (codeOf l)).drop depth := by
  rw [openBracesOn, codeOf]
  split_ifs
  · rfl
  · exact walk_eq_stack n depth stack l

/-- The walk over the lines above meets their stack, less what is pending. -/
lemma metAbove_eq (depth : Nat) (above : List Text) :
    metAbove depth above = (stackLines 0 [] above.reverse).drop depth := by
  induction above generalizing depth with
  | nil => simp [metAbove, stackLines]
  | cons l above ih =>
      rw [metAbove, ih, walkOn_eq_stack, List.reverse_cons, stackLines_append_singleton,
        List.length_reverse, Nat.zero_add]

/-- **The walk meets the open braces, innermost first.** -/
lemma metFrom_eq_openAt {lines : List Text} {index : Nat} (h : index < lines.length)
    (column : Int) : metFrom lines index column = openAt lines index column := by
  have hlength : (lines.take index).length = index := by
    rw [List.length_take]
    omega
  rw [metFrom, metAbove_eq, List.reverse_reverse, walkOn_eq_stack, openAt,
    stackLines_append_singleton, hlength, Nat.zero_add, List.drop_zero]

/-! ## The forward check -/

lemma blockEnd_append (d : Delimiter) (a : List Text) (l : Text) (b : List Text) :
    blockEnd d (a ++ l :: b) a.length = a.length + extent d (l :: b) := by
  have hfirst : min (Int.toNat a.length) ((a ++ l :: b).length - 1) = a.length := by
    rw [List.length_append, List.length_cons]
    omega
  rw [blockEnd, hfirst, List.drop_left]

/-- Walking back over a text leaves at least as many braces pending as are needed to balance it. -/
lemma le_pending (depth : Nat) (r : Text) :
    (depth : Int) ≤ (openBraces depth r).1 + (r.map Delimiter.brace.weight).sum := by
  induction r generalizing depth with
  | nil => simp [openBraces]
  | cons c cs ih =>
      rw [List.map_cons, List.sum_cons]
      by_cases hclose : c = '}'
      · subst hclose
        have := ih (depth + 1)
        have hweight : Delimiter.brace.weight '}' = -1 := by decide
        rw [openBraces_close, hweight]
        omega
      · by_cases hopen : c = '{'
        · subst hopen
          have hweight : Delimiter.brace.weight '{' = 1 := by decide
          rw [hweight]
          cases depth with
          | zero =>
              have := ih 0
              rw [openBraces_open_zero]
              omega
          | succ depth =>
              have := ih depth
              rw [openBraces_open_succ]
              omega
        · have := ih depth
          have hweight : Delimiter.brace.weight c = 0 := by
            simp [Delimiter.weight, Delimiter.isOpen, Delimiter.isClose, hclose, hopen]
          rw [openBraces_other hclose hopen, hweight]
          omega

lemma le_pendingOn (depth : Nat) (l : Text) :
    (depth : Int) ≤ (openBracesOn depth l).1 + balance .brace l := by
  rw [openBracesOn, balance_eq_sum]
  split_ifs
  · omega
  · have := le_pending depth l.reverse
    rwa [List.map_reverse, List.sum_reverse] at this

/-- A line on which the walk meets a brace opens more than is pending. -/
lemma lt_openDepth {depth : Nat} {l : Text} (h : (openBracesOn depth l).2 ≠ []) :
    depth < openDepth .brace l := by
  have hstack := walkOn_eq_stack 0 depth [] l
  have hlength : openDepth .brace l = (stackText 0 0 [] (codeOf l)).length := by
    rw [length_stackText, openDepth, codeOf]
    split_ifs <;> rfl
  rw [hlength]
  by_contra hle
  rw [List.drop_nil, List.append_nil, List.drop_eq_nil_of_le (Nat.not_lt.mp hle)] at hstack
  exact h (List.map_eq_nil_iff.mp hstack)

/-- Any block that is deeper than `depth` on the line before `below` takes more than `distance` of
those lines. -/
def Reaches (depth : Nat) (below : List Text) (distance : Nat) : Prop :=
  ∀ n : Int, depth < n → distance < closingExtent .brace n below

lemma reaches_zero (depth : Nat) (l : Text) (below : List Text) : Reaches depth (l :: below) 0 := by
  intro n _
  rw [closingExtent]
  split_ifs <;> omega

/-- The step of the walk: what is pending above a line is enough for the lines below it. -/
lemma Reaches.cons {depth distance : Nat} {below : List Text} (h : Reaches depth below distance)
    (l : Text) : Reaches (openBracesOn depth l).1 (l :: below) (distance + 1) := by
  intro n hn
  have hpending := le_pendingOn depth l
  have hdeeper : (depth : Int) < n + balance .brace l := by omega
  rw [closingExtent, if_neg (by omega)]
  have := h _ hdeeper
  omega

lemma Reaches.lt_extent {depth distance : Nat} {below : List Text}
    (h : Reaches depth below distance) {l : Text} (hfound : (openBracesOn depth l).2 ≠ []) :
    distance < extent .brace (l :: below) := by
  have hdepth := lt_openDepth hfound
  rw [extent, if_neg (by omega)]
  exact h _ (by exact_mod_cast hdepth)

/-- **The blocks of the braces that the walk meets reach the position.** -/
lemma metAbove_reaches {depth distance : Nat} {above below : List Text}
    (h : Reaches depth below distance) {p : BracePosition} (hp : p ∈ metAbove depth above) :
    above.length + distance ≤ blockEnd .brace (above.reverse ++ below) p.line := by
  induction above generalizing depth distance below with
  | nil => simp [metAbove] at hp
  | cons l above ih =>
      rw [List.reverse_cons, List.append_assoc, List.singleton_append]
      rw [metAbove, List.mem_append] at hp
      rcases hp with hp | hp
      · obtain ⟨before, hbefore, rfl⟩ := List.mem_map.mp hp
        have hlt := h.lt_extent (List.ne_nil_of_mem hbefore)
        have hend := blockEnd_append .brace above.reverse l below
        rw [List.length_reverse] at hend
        rw [hend, List.length_cons]
        omega
      · have := ih (h.cons l) hp
        rw [List.length_cons]
        omega

/-! ## The search -/

lemma suffix_of_mem_openBraces {depth : Nat} {r before : Text}
    (h : before ∈ (openBraces depth r).2) : before <:+ r := by
  induction r generalizing depth with
  | nil => simp [openBraces] at h
  | cons c cs ih =>
      refine List.IsSuffix.trans ?_ (List.suffix_cons c cs)
      by_cases hclose : c = '}'
      · subst hclose
        exact ih (openBraces_close depth cs ▸ h)
      · by_cases hopen : c = '{'
        · subst hopen
          cases depth with
          | zero =>
              rw [openBraces_open_zero, List.mem_cons] at h
              rcases h with rfl | h
              · exact List.suffix_refl _
              · exact ih h
          | succ depth => exact ih (openBraces_open_succ depth cs ▸ h)
        · exact ih (openBraces_other hclose hopen depth cs ▸ h)

/-- What the walk keeps of a brace is the text before it, reversed. -/
lemma reverse_of_mem_openBracesOn {depth : Nat} {l before : Text}
    (h : before ∈ (openBracesOn depth l).2) : before.reverse = l.take before.length := by
  rw [openBracesOn] at h
  split_ifs at h
  · simp at h
  · have hprefix : before.reverse <+: l :=
      List.reverse_suffix.mp (by rw [List.reverse_reverse]; exact suffix_of_mem_openBraces h)
    rw [List.prefix_iff_eq_take, List.length_reverse] at hprefix
    exact hprefix

/-- Asking the texts that the walk keeps is asking the braces at their positions. -/
lemma any_namesCatch_iff {depth : Nat} {l : Text} (n : Nat) :
    (openBracesOn depth l).2.any (fun before => namesCatch before.reverse) = true ↔
      ∃ p ∈ positionsOn n (openBracesOn depth l).2, namesCatch (l.take p.column) = true := by
  rw [List.any_eq_true]
  constructor
  · rintro ⟨before, hmem, hcatch⟩
    rw [reverse_of_mem_openBracesOn hmem] at hcatch
    exact ⟨_, List.mem_map_of_mem hmem, hcatch⟩
  · rintro ⟨p, hp, hcatch⟩
    obtain ⟨before, hmem, rfl⟩ := List.mem_map.mp hp
    exact ⟨before, hmem, by rw [reverse_of_mem_openBracesOn hmem]; exact hcatch⟩

lemma catchAbove_cons (depth distance : Nat) (l : Text) (above below : List Text) :
    catchAbove depth below distance (l :: above) =
      (((openBracesOn depth l).2.any (fun before => namesCatch before.reverse) &&
          decide (distance + 1 ≤ extent .brace (l :: below))) ||
        catchAbove (openBracesOn depth l).1 (l :: below) (distance + 1) above) := rfl

lemma before_append {a : List Text} {l : Text} {b : List Text} {p : BracePosition}
    (h : p.line = a.length) : p.before (a ++ l :: b) = l.take p.column := by
  rw [BracePosition.before, h, List.getD_append_right _ _ _ _ (Nat.le_refl _), Nat.sub_self,
    List.getD_cons_zero]

lemma line_of_mem_positionsOn {n : Nat} {found : List Text} {p : BracePosition}
    (h : p ∈ positionsOn n found) : p.line = n := by
  obtain ⟨before, -, rfl⟩ := List.mem_map.mp h
  rfl

/-- The search above asks the braces that the walk meets, each with its forward check. -/
lemma catchAbove_iff (depth distance : Nat) (above below : List Text) :
    catchAbove depth below distance above = true ↔
      ∃ p ∈ metAbove depth above, namesCatch (p.before (above.reverse ++ below)) = true ∧
        above.length + distance ≤ blockEnd .brace (above.reverse ++ below) p.line := by
  induction above generalizing depth distance below with
  | nil => simp [catchAbove, metAbove]
  | cons l above ih =>
      have hlines : (l :: above).reverse ++ below = above.reverse ++ l :: below := by simp
      have hend : blockEnd .brace (above.reverse ++ l :: below) above.length
          = above.length + extent .brace (l :: below) := by
        simpa using blockEnd_append .brace above.reverse l below
      have hcount : (l :: above).length + distance = above.length + (distance + 1) := by
        rw [List.length_cons]
        omega
      rw [catchAbove_cons, Bool.or_eq_true, Bool.and_eq_true, decide_eq_true_eq,
        any_namesCatch_iff above.length, ih, metAbove, hlines, hcount]
      constructor
      · rintro (⟨⟨p, hp, hcatch⟩, hreach⟩ | ⟨p, hp, hcatch⟩)
        · have hline := line_of_mem_positionsOn hp
          refine ⟨p, List.mem_append_left _ hp, ?_, ?_⟩
          · rw [before_append (by simpa using hline)]
            exact hcatch
          · rw [hline, hend]
            omega
        · exact ⟨p, List.mem_append_right _ hp, hcatch⟩
      · rintro ⟨p, hp, hcatch, hreach⟩
        rcases List.mem_append.mp hp with hp | hp
        · have hline := line_of_mem_positionsOn hp
          rw [before_append (by simpa using hline)] at hcatch
          rw [hline, hend] at hreach
          exact Or.inl ⟨⟨p, hp, hcatch⟩, by omega⟩
        · exact Or.inr ⟨p, hp, hcatch, hreach⟩

lemma line_lt_of_mem_metAbove {depth : Nat} {above : List Text} {p : BracePosition}
    (h : p ∈ metAbove depth above) : p.line < above.length := by
  induction above generalizing depth with
  | nil => simp [metAbove] at h
  | cons l above ih =>
      rw [List.length_cons]
      rcases List.mem_append.mp h with h | h
      · have := line_of_mem_positionsOn h
        omega
      · have := ih h
        omega

lemma upTo_eq_take (column : Int) (t : Text) : ∃ k, upTo column t = t.take k := by
  rw [upTo]
  split_ifs
  · exact ⟨_, rfl⟩
  · exact ⟨_, rfl⟩

/-- Cutting a line off behind a brace leaves the text before the brace as it is. -/
lemma take_upTo_of_mem {depth n : Nat} {column : Int} {l : Text} {p : BracePosition}
    (h : p ∈ positionsOn n (openBracesOn depth (upTo column l)).2) :
    (upTo column l).take p.column = l.take p.column := by
  obtain ⟨before, hmem, rfl⟩ := List.mem_map.mp h
  have hlength := congrArg List.length (reverse_of_mem_openBracesOn hmem)
  obtain ⟨k, hk⟩ := upTo_eq_take column l
  rw [hk, List.length_reverse, List.length_take, List.length_take] at hlength
  have hle : before.length ≤ k := by omega
  show (upTo column l).take before.length = l.take before.length
  rw [hk, List.take_take, Nat.min_eq_left hle]

lemma insideCatch_eq {lines : List Text} {index : Nat} (h : index < lines.length) (column : Int) :
    insideCatch lines index column =
      ((openBracesOn 0 (upTo column (lines.getD index []))).2.any
          (fun before => namesCatch before.reverse) ||
        catchAbove (openBracesOn 0 (upTo column (lines.getD index []))).1 (lines.drop index) 0
          (lines.take index).reverse) := by
  rw [insideCatch, if_neg (by omega), Int.toNat_natCast, List.drop_eq_getElem_cons h,
    List.getD_eq_getElem _ _ h]

lemma insideCatch_split (above : List Text) (l : Text) (ls : List Text) (column : Nat) :
    insideCatch (above.reverse ++ l :: ls) above.length column =
      ((openBracesOn 0 (l.take column)).2.any (fun before => namesCatch before.reverse) ||
        catchAbove (openBracesOn 0 (l.take column)).1 (l :: ls) 0 above) := by
  have hlength : above.length = above.reverse.length := List.length_reverse.symm
  have hline : (above.reverse ++ l :: ls).getD above.length [] = l := by
    rw [hlength, List.getD_append_right _ _ _ _ (Nat.le_refl _), Nat.sub_self, List.getD_cons_zero]
  have hupTo : upTo column l = l.take column := by
    rw [upTo, if_neg (by omega), Int.toNat_natCast]
  rw [insideCatch_eq (by simp), hline, hupTo, hlength, List.drop_left, List.take_left,
    List.reverse_reverse]

/-- The search asks the braces that the walk meets: one on the line itself needs no check, one above
must have a block that reaches the line. -/
lemma insideCatch_iff_met {lines : List Text} {index : Nat} (h : index < lines.length)
    (column : Int) :
    insideCatch lines index column = true ↔
      ∃ p ∈ metFrom lines index column, namesCatch (p.before lines) = true ∧
        (p.line = index ∨ index ≤ blockEnd .brace lines p.line) := by
  have hlength : (lines.take index).reverse.length = index := by
    rw [List.length_reverse, List.length_take]
    omega
  have habove := catchAbove_iff (openBracesOn 0 (upTo column (lines.getD index []))).1 0
    (lines.take index).reverse (lines.drop index)
  rw [List.reverse_reverse, List.take_append_drop, hlength, Nat.add_zero] at habove
  rw [insideCatch_eq h, Bool.or_eq_true, any_namesCatch_iff index, habove, metFrom]
  constructor
  · rintro (⟨p, hp, hcatch⟩ | ⟨p, hp, hcatch, hreach⟩)
    · have hline := line_of_mem_positionsOn hp
      rw [take_upTo_of_mem hp] at hcatch
      exact ⟨p, List.mem_append_left _ hp, by rwa [BracePosition.before, hline], Or.inl hline⟩
    · exact ⟨p, List.mem_append_right _ hp, hcatch, Or.inr hreach⟩
  · rintro ⟨p, hp, hcatch, hline⟩
    rcases List.mem_append.mp hp with hp | hp
    · refine Or.inl ⟨p, hp, ?_⟩
      rwa [take_upTo_of_mem hp, ← line_of_mem_positionsOn hp]
    · have hlt := line_lt_of_mem_metAbove hp
      exact Or.inr ⟨p, hp, hcatch, hline.resolve_left (by omega)⟩

lemma line_le_of_mem_metFrom {lines : List Text} {index : Nat} {column : Int} {p : BracePosition}
    (h : p ∈ metFrom lines index column) : p.line ≤ index := by
  rcases List.mem_append.mp h with h | h
  · exact Nat.le_of_eq (line_of_mem_positionsOn h)
  · have hlt := line_lt_of_mem_metAbove h
    rw [List.length_reverse, List.length_take] at hlt
    omega

/-- The forward check of a brace above the line succeeds. -/
lemma metFrom_reaches {lines : List Text} {index : Nat} (h : index < lines.length) {column : Int}
    {p : BracePosition} (hp : p ∈ metFrom lines index column) (hline : p.line < index) :
    index ≤ blockEnd .brace lines p.line := by
  rcases List.mem_append.mp hp with hp | hp
  · have := line_of_mem_positionsOn hp
    omega
  · have hnear : Reaches (openBracesOn 0 (upTo column (lines.getD index []))).1
        (lines.drop index) 0 := by
      rw [List.drop_eq_getElem_cons h]
      exact reaches_zero _ _ _
    have hreach := metAbove_reaches hnear hp
    rw [List.reverse_reverse, List.take_append_drop, List.length_reverse,
      List.length_take] at hreach
    omega

/-- **Catch blocks by the stack.**  A position lies inside a `catch` block exactly when one of the
braces open there has the word `catch` before it on its line.  The search asks the braces that the
walk back meets, which are just these, and checks that the block of one that stands above the line
reaches the line; this check never fails. -/
theorem insideCatch_iff_openAt (lines : List Text) (index : Nat) (h : index < lines.length)
    (column : Int) :
    (insideCatch lines index column = true ↔
        ∃ p ∈ openAt lines index column, HasWord "catch" (p.before lines)) ∧
      (insideCatch lines index column = true ↔
        ∃ p ∈ metFrom lines index column, HasWord "catch" (p.before lines) ∧
          (p.line = index ∨ index ≤ blockEnd .brace lines p.line)) ∧
      metFrom lines index column = openAt lines index column ∧
      ∀ p ∈ metFrom lines index column, p.line < index →
        index ≤ blockEnd .brace lines p.line := by
  have hmet := insideCatch_iff_met h column
  simp only [namesCatch, anywhere_isWhole] at hmet
  refine ⟨?_, hmet, metFrom_eq_openAt h column, fun p hp => metFrom_reaches h hp⟩
  rw [hmet, ← metFrom_eq_openAt h column]
  constructor
  · rintro ⟨p, hp, hcatch, -⟩
    exact ⟨p, hp, hcatch⟩
  · rintro ⟨p, hp, hcatch⟩
    refine ⟨p, hp, hcatch, ?_⟩
    have hle := line_le_of_mem_metFrom hp
    rcases Nat.lt_or_eq_of_le hle with hlt | heq
    · exact Or.inr (metFrom_reaches h hp hlt)
    · exact Or.inl heq

/-- The body of a `catch` two lines below its `try`: one brace is open, the block that it starts
reaches the line, and the search accepts it. -/
theorem insideCatch_iff_openAt_body :
    let lines := ["try ".toList ++ ['{'], '}' :: " catch (e) ".toList ++ ['{'],
      "  log(e)".toList]
    openAt lines 2 2 = [⟨1, 12⟩] ∧ insideCatch lines 2 2 = true ∧
      2 ≤ blockEnd .brace lines 1 := by
  intro lines
  have hopen : openAt lines 2 2 = [⟨1, 12⟩] := by decide
  obtain ⟨hstack, -, hmet, hreach⟩ := insideCatch_iff_openAt lines 2 (by decide) 2
  rw [hmet, hopen] at hreach
  refine ⟨hopen, hstack.mpr ⟨⟨1, 12⟩, by rw [hopen]; exact List.mem_singleton_self _, ?_⟩, ?_⟩
  · exact ⟨['}', ' '], " (e) ".toList, by decide, any_isWord_eq_false.mp (by decide),
      any_isWord_eq_false.mp (by decide)⟩
  · exact hreach ⟨1, 12⟩ (List.mem_singleton_self _) (by decide)

end ReactLint
