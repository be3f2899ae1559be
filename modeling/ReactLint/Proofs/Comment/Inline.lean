import Mathlib.Data.List.Basic
import Mathlib.Tactic.Common
import ReactLint.Comment.Scan
import ReactLint.Proofs.Comment.Quoting

/-!
# Comments that follow code

A comment behind code starts at the first pair of slashes that passes the tests.  All tests but one
look at what stands before the pair, and the pairs themselves are found from left to right.  So what
stands behind a pair can only tell whether the comment says anything.

**Pairs.**  The pairs of slashes are taken without overlap (`slashPairs`), and the search looks
through them in order (`inlineStart?_eq_find?`).  Which pairs lie in a beginning of a line is seen
from that beginning (`mem_slashPairs_append`).

**Tests.**  `followsCode` holds the tests that look back; they read the line up to the pair
(`followsCode_append`).  A pair in front of another one has something behind it, so it was passed
over for what stands before it (`inlineStart?_eq_some_iff`).
-/

namespace ReactLint.Comment

open Text

/-! ## Pairs of slashes -/

/-- The positions of the pairs of slashes in a text that starts at `pos`, from left to right and
without overlap. -/
def slashPairsFrom (pos : Nat) : Text → List Nat
  | '/' :: '/' :: rest => pos :: slashPairsFrom (pos + 2) rest
  | _ :: rest => slashPairsFrom (pos + 1) rest
  | [] => []

/-- The positions of the pairs of slashes of a line. -/
def slashPairs (line : Text) : List Nat := slashPairsFrom 0 line

lemma inlineStartFrom_eq_find? (line rest : Text) (pos : Nat) :
    inlineStartFrom line pos rest = (slashPairsFrom pos rest).find? (startsInlineAt line) := by
  fun_induction inlineStartFrom line pos rest with
  | case1 pos rest hstart => rw [slashPairsFrom, List.find?_cons_of_pos hstart]
  | case2 pos rest hstart ih => rw [slashPairsFrom, List.find?_cons_of_neg hstart, ih]
  | case3 pos c rest hne ih =>
      rw [slashPairsFrom]
      · exact ih
      · exact hne
  | case4 pos => rfl

lemma inlineStart?_eq_find? (line : Text) :
    inlineStart? line = (slashPairs line).find? (startsInlineAt line) :=
  inlineStartFrom_eq_find? line line 0

/-- A pair of slashes stands at each of the positions. -/
lemma exists_of_mem_slashPairsFrom {pos p : Nat} {rest : Text} (h : p ∈ slashPairsFrom pos rest) :
    ∃ a b, rest = a ++ '/' :: '/' :: b ∧ p = pos + a.length := by
  fun_induction slashPairsFrom pos rest with
  | case1 pos rest ih =>
      rcases List.mem_cons.mp h with rfl | h
      · exact ⟨[], rest, rfl, rfl⟩
      · obtain ⟨a, b, rfl, rfl⟩ := ih h
        exact ⟨'/' :: '/' :: a, b, rfl, by simp only [List.length_cons]; omega⟩
  | case2 pos c rest hne ih =>
      obtain ⟨a, b, rfl, rfl⟩ := ih h
      exact ⟨c :: a, b, rfl, by simp only [List.length_cons]; omega⟩
  | case3 pos => cases h

lemma exists_of_mem_slashPairs {p : Nat} {line : Text} (h : p ∈ slashPairs line) :
    ∃ a b, line = a ++ '/' :: '/' :: b ∧ p = a.length := by
  simpa using exists_of_mem_slashPairsFrom h

lemma le_of_mem_slashPairsFrom {pos p : Nat} {rest : Text} (h : p ∈ slashPairsFrom pos rest) :
    pos ≤ p := by
  obtain ⟨a, b, -, rfl⟩ := exists_of_mem_slashPairsFrom h
  omega

lemma pairwise_slashPairsFrom (pos : Nat) (rest : Text) :
    (slashPairsFrom pos rest).Pairwise (· < ·) := by
  fun_induction slashPairsFrom pos rest with
  | case1 pos rest ih =>
      refine List.pairwise_cons.mpr ⟨fun p hp => ?_, ih⟩
      have := le_of_mem_slashPairsFrom hp
      omega
  | case2 pos c rest hne ih => exact ih
  | case3 pos => exact List.Pairwise.nil

/-- The pairs that lie in the first part of a text are those of that part. -/
lemma mem_slashPairsFrom_append {pos p : Nat} {s : Text} (t : Text) (h : p + 2 ≤ pos + s.length) :
    p ∈ slashPairsFrom pos (s ++ t) ↔ p ∈ slashPairsFrom pos s := by
  fun_induction slashPairsFrom pos s with
  | case1 pos s ih =>
      rw [List.length_cons, List.length_cons] at h
      rw [List.cons_append, List.cons_append, slashPairsFrom, List.mem_cons, List.mem_cons,
        ih (by omega)]
  | case2 pos c s hne ih =>
      rw [List.length_cons] at h
      cases s with
      | nil =>
          -- a single character holds no pair, not even one that goes on in the second part
          rw [List.length_nil] at h
          exact iff_of_false (fun hp => by have := le_of_mem_slashPairsFrom hp; omega)
            fun hp => by have := le_of_mem_slashPairsFrom hp; omega
      | cons d s =>
          rw [List.cons_append, slashPairsFrom, ih (by omega)]
          rintro rest rfl hrest
          exact hne s rfl (by rw [(List.cons.inj hrest).1])
  | case3 pos =>
      rw [List.length_nil] at h
      exact iff_of_false (fun hp => by have := le_of_mem_slashPairsFrom hp; omega) List.not_mem_nil

lemma mem_slashPairs_append {p : Nat} {s : Text} (t : Text) (h : p + 2 ≤ s.length) :
    p ∈ slashPairs (s ++ t) ↔ p ∈ slashPairs s :=
  mem_slashPairsFrom_append t (by omega)

/-! ## What is looked at -/

/-- Whether what stands before position `pos` lets a comment start there: code, no colon at its end,
and no literal open. -/
def followsCode (line : Text) (pos : Nat) : Bool :=
  !isBlankText (line.take pos) && (line.take pos).getLast? != some ':' && !insideLiteral line pos

lemma startsInlineAt_eq (line : Text) (pos : Nat) :
    startsInlineAt line pos = (followsCode line pos && !isBlankText (line.drop (pos + 2))) := rfl

/-- The tests that look back read the line up to the position. -/
lemma followsCode_append {s : Text} {pos : Nat} (t : Text) (h : pos < s.length) :
    followsCode (s ++ t) pos = followsCode s pos := by
  have hlong : pos < (s ++ t).length := by rw [List.length_append]; omega
  have hliteral : insideLiteral (s ++ t) pos = insideLiteral s pos := by
    rw [Quoting.insideLiteral_eq hlong, Quoting.insideLiteral_eq h,
      List.take_append_of_le_length (by omega)]
  rw [followsCode, followsCode, hliteral, List.take_append_of_le_length (by omega)]

/-- A text with a pair of slashes behind another position is not blank from there. -/
lemma isBlankText_drop_of_mem {line : Text} {p q : Nat} (hp : p ∈ slashPairs line) (hq : q < p) :
    isBlankText (line.drop (q + 2)) = false := by
  obtain ⟨a, b, rfl, rfl⟩ := exists_of_mem_slashPairs hp
  -- the second slash of the pair, as the two positions may be next to each other
  have hsecond : '/' ∈ (a ++ '/' :: '/' :: b).drop (q + 2) := by
    rw [List.append_cons, List.drop_append_of_le_length (by simp; omega)]
    exact List.mem_append_right _ List.mem_cons_self
  rw [isBlankText, List.all_eq_false]
  exact ⟨'/', hsecond, by decide⟩

/-- **Where a comment starts.**  It is the first pair of slashes that the tests looking back let
through, provided that something stands behind it. -/
lemma inlineStart?_eq_some_iff {line : Text} {p : Nat} :
    inlineStart? line = some p ↔
      p ∈ slashPairs line ∧ startsInlineAt line p = true ∧
        ∀ q ∈ slashPairs line, q < p → followsCode line q = false := by
  rw [inlineStart?_eq_find?, List.find?_eq_some_iff_append]
  constructor
  · rintro ⟨hstart, before, behind, hsplit, hbefore⟩
    have hp : p ∈ slashPairs line := hsplit ▸ List.mem_append_right _ List.mem_cons_self
    refine ⟨hp, hstart, fun q hq hlt => ?_⟩
    have hmem : q ∈ before := by
      have horder := pairwise_slashPairsFrom 0 line
      rw [slashPairs] at hsplit hq
      rw [hsplit, List.pairwise_append, List.pairwise_cons] at horder
      rw [hsplit, List.mem_append, List.mem_cons] at hq
      rcases hq with hq | rfl | hq
      · exact hq
      · omega
      · have := horder.2.1.1 q hq
        omega
    have hnot := hbefore q hmem
    rw [startsInlineAt_eq, isBlankText_drop_of_mem hp hlt] at hnot
    simpa using hnot
  · rintro ⟨hp, hstart, hbefore⟩
    obtain ⟨before, behind, hsplit⟩ := List.append_of_mem hp
    refine ⟨hstart, before, behind, hsplit, fun q hq => ?_⟩
    have horder := pairwise_slashPairsFrom 0 line
    rw [← slashPairs, hsplit, List.pairwise_append] at horder
    have hlt : q < p := horder.2.2 q hq p List.mem_cons_self
    have hnot := hbefore q (hsplit ▸ List.mem_append_left _ hq) hlt
    rw [startsInlineAt_eq, hnot]
    rfl

lemma inlineStart?_eq_none_iff {line : Text} :
    inlineStart? line = none ↔ ∀ p ∈ slashPairs line, startsInlineAt line p = false := by
  rw [inlineStart?_eq_find?, List.find?_eq_none]
  simp only [Bool.not_eq_true]

/-! ## Other tails -/

/-- A comment starts where it did when something else stands behind its slashes. -/
lemma inlineStart?_of_tail {line : Text} {p : Nat} (h : inlineStart? line = some p) {t : Text}
    (ht : isBlankText t = false) : inlineStart? (line.take (p + 2) ++ t) = some p := by
  obtain ⟨hp, hstart, hbefore⟩ := inlineStart?_eq_some_iff.mp h
  obtain ⟨a, b, hsplit, rfl⟩ := exists_of_mem_slashPairs hp
  rw [startsInlineAt_eq, Bool.and_eq_true] at hstart
  -- both lines begin with the code and the pair
  have hline : line = a ++ ['/', '/'] ++ b := by simp [hsplit]
  have hfront : line.take (a.length + 2) = a ++ ['/', '/'] := by
    rw [hline, List.take_left' (by simp)]
  have hmem {q : Nat} (hq : q ≤ a.length) :
      q ∈ slashPairs (a ++ ['/', '/'] ++ t) ↔ q ∈ slashPairs line := by
    have hlength : q + 2 ≤ (a ++ ['/', '/']).length := by simpa using hq
    rw [hline, mem_slashPairs_append t hlength, mem_slashPairs_append b hlength]
  have hfollows {q : Nat} (hq : q ≤ a.length) :
      followsCode (a ++ ['/', '/'] ++ t) q = followsCode line q := by
    have hlength : q < (a ++ ['/', '/']).length := by simp; omega
    rw [hline, followsCode_append t hlength, followsCode_append b hlength]
  rw [hfront, inlineStart?_eq_some_iff]
  refine ⟨(hmem (Nat.le_refl _)).mpr hp, ?_, fun q hq hlt => ?_⟩
  · rw [startsInlineAt_eq, hfollows (Nat.le_refl _), hstart.1]
    simp [ht]
  · rw [hfollows (by omega)]
    exact hbefore q ((hmem (by omega)).mp hq) hlt

/-- A line without a comment behind code has none in any beginning. -/
lemma inlineStart?_of_prefix {line s : Text} (h : inlineStart? line = none) (hs : s <+: line) :
    inlineStart? s = none := by
  obtain ⟨t, rfl⟩ := hs
  rw [inlineStart?_eq_none_iff] at h ⊢
  intro p hp
  obtain ⟨a, b, rfl, rfl⟩ := exists_of_mem_slashPairs hp
  have hlength : a.length + 2 ≤ (a ++ '/' :: '/' :: b).length := by simp
  have hnot := h _ ((mem_slashPairs_append t hlength).mpr hp)
  rw [startsInlineAt_eq, followsCode_append t (by omega), List.drop_append_of_le_length hlength,
    Bool.and_eq_false_iff] at hnot
  rw [startsInlineAt_eq, Bool.and_eq_false_iff]
  -- what is blank with more behind it is blank
  refine hnot.imp_right fun hblank => ?_
  simp only [isBlankText, List.all_append, Bool.not_eq_false', Bool.and_eq_true] at hblank ⊢
  exact hblank.1

/-- **A comment behind code starts where the code before it says.**  It starts at the first pair of
slashes that follows code and says something.  When it starts at position `p`, two slashes stand
there; something that is not blank stands before them, a colon does not stand right before them, and
no literal is open.  With any other text behind the slashes that is not blank, it starts at the same
position.  And when no comment starts on a line, none starts on any beginning of it. -/
theorem inlineStart_told_by_front (line : Text) :
    (∀ p, inlineStart? line = some p ↔
      p ∈ slashPairs line ∧ startsInlineAt line p = true ∧
        ∀ q ∈ slashPairs line, q < p → followsCode line q = false) ∧
    (∀ p, inlineStart? line = some p →
      (line.drop p).take 2 = "//".toList ∧ (∃ c ∈ line.take p, isBlank c = false) ∧
      (line.take p).getLast? ≠ some ':' ∧ insideLiteral line p = false ∧
      ∀ t, isBlankText t = false → inlineStart? (line.take (p + 2) ++ t) = some p) ∧
    (inlineStart? line = none → ∀ s, s <+: line → inlineStart? s = none) := by
  refine ⟨fun p => inlineStart?_eq_some_iff, fun p h => ?_,
    fun h s hs => inlineStart?_of_prefix h hs⟩
  obtain ⟨hp, hstart, -⟩ := inlineStart?_eq_some_iff.mp h
  have hslashes : (line.drop p).take 2 = "//".toList := by
    obtain ⟨a, b, rfl, rfl⟩ := exists_of_mem_slashPairs hp
    simp
  simp only [startsInlineAt_eq, followsCode, Bool.and_eq_true, Bool.not_eq_true', bne_iff_ne,
    isBlankText, List.all_eq_false, Bool.not_eq_true] at hstart
  obtain ⟨⟨⟨hcode, hcolon⟩, hliteral⟩, -⟩ := hstart
  exact ⟨hslashes, hcode, hcolon, hliteral, fun t ht => inlineStart?_of_tail h ht⟩

/-- The slashes of an address and those of a literal start no comment, and a comment of one more
slash starts where the remark did. -/
theorem inlineStart_told_by_front_address :
    inlineStart? "a:// '//' // b".toList = some 10 ∧
      inlineStart? "a:// '//' ///".toList = some 10 := by
  have hremark : inlineStart? "a:// '//' // b".toList = some 10 := by decide
  obtain ⟨-, -, -, -, htail⟩ := (inlineStart_told_by_front "a:// '//' // b".toList).2.1 10 hremark
  exact ⟨hremark, htail ['/'] (by decide)⟩

end ReactLint.Comment
