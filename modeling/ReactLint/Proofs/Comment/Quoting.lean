import Mathlib.Algebra.Group.Nat.Even
import Mathlib.Data.List.Induction
import Mathlib.Tactic.Common
import ReactLint.Comment.Literal

/-!
# Literals in the language

In the language a backslash inside a literal makes the next character part of it, whatever that
character is, and a backslash outside has no effect.  `Quoting` is the scanner for these rules.  The
linter looks at one character before a mark instead.

**One character.**  While the two agree on the mark that is open, they take the next character alike
unless it is a mark behind a backslash that opens or closes a literal: the linter passes over it
(`agrees_concat`, `PassedOver.isOpen_ne`).

**Runs of backslashes.**  In a literal the backslashes of a run escape each other in pairs, outside
they do nothing (`after_append_replicate`).  So the marks that are misread are those behind a run
outside, and the closing marks behind an even run (`misread_iff`).

**A whole line.**  The answers agree up to a position exactly when no mark up to there is misread.
-/

namespace ReactLint

/-- Where a scanner of literals stands. -/
inductive Quoting where
  | outside
  | inside (mark : Char)
  /-- Inside, right behind a backslash that escapes what follows. -/
  | escaped (mark : Char)
  deriving DecidableEq, Repr

namespace Quoting

/-- The mark of the literal that is open. -/
def mark? : Quoting → Option Char
  | outside => none
  | inside mark | escaped mark => some mark

/-- Whether a literal is open. -/
def isOpen (q : Quoting) : Bool := q.mark?.isSome

/-- The scanner behind one more character. -/
def step : Quoting → Char → Quoting
  | outside, c => if isLiteralMark c then inside c else outside
  | inside mark, c =>
    if c = '\\' then escaped mark else if c = mark then outside else inside mark
  | escaped mark, _ => inside mark

/-- The scanner behind a text. -/
def after (t : Text) : Quoting := t.foldl step outside

lemma after_append (s t : Text) : after (s ++ t) = t.foldl step (after s) := List.foldl_append

@[simp] lemma after_concat (t : Text) (c : Char) : after (t ++ [c]) = (after t).step c :=
  after_append t [c]

/-- What escapes is no mark itself, so `simp` can tell the two tests of a step apart. -/
@[simp] lemma isLiteralMark_backslash : isLiteralMark '\\' = false := rfl

lemma ne_backslash {c : Char} (hc : isLiteralMark c) : c ≠ '\\' := by
  rintro rfl
  simp at hc

/-- What a text leaves behind: an open literal has a mark, and what escapes is a backslash. -/
lemma after_cases (t : Text) :
    after t = outside ∨ (∃ m, isLiteralMark m ∧ after t = inside m) ∨
      ∃ m, isLiteralMark m ∧ after t = escaped m ∧ t.getLast? = some '\\' := by
  induction t using List.reverseRecOn with
  | nil => exact Or.inl rfl
  | append_singleton t c ih =>
      rw [after_concat]
      rcases ih with h | ⟨m, hm, h⟩ | ⟨m, hm, h, -⟩
      · rw [h, step]
        split_ifs with hc
        · exact Or.inr (Or.inl ⟨c, hc, rfl⟩)
        · exact Or.inl rfl
      · rw [h, step]
        split_ifs with hback hclose
        · exact Or.inr (Or.inr ⟨m, hm, rfl, by simp [hback]⟩)
        · exact Or.inl rfl
        · exact Or.inr (Or.inl ⟨m, hm, rfl⟩)
      · rw [h, step]
        exact Or.inr (Or.inl ⟨m, hm, rfl⟩)

/-! ## One character -/

/-- The linter and the scanner have the same literal open behind a text. -/
def Agrees (t : Text) : Prop := openMark none none t = (after t).mark?

/-- Whether `c` behind the text `t` is a mark that opens or closes a literal and that the linter
passes over. -/
def PassedOver (t : Text) (c : Char) : Prop :=
  isLiteralMark c ∧ t.getLast? = some '\\' ∧ (after t = outside ∨ after t = inside c)

lemma openMark_concat (t : Text) (c : Char) :
    openMark none none (t ++ [c]) = markStep t.getLast? (openMark none none t) c := by
  rw [openMark_append, Option.or_none]
  rfl

/-- A mark that is passed over makes the two answers differ. -/
lemma PassedOver.isOpen_ne {t : Text} {c : Char} (h : PassedOver t c) (ht : Agrees t) :
    (openMark none none (t ++ [c])).isSome ≠ (after (t ++ [c])).isOpen := by
  obtain ⟨hmark, hback, hstate⟩ := h
  have hkept : openMark none none (t ++ [c]) = (after t).mark? := by
    rw [openMark_concat, ht, hback]
    simp [markStep]
  rcases hstate with hstate | hstate
  · simp [hkept, hstate, mark?, isOpen, step, hmark]
  · simp [hkept, hstate, mark?, isOpen, step, ne_backslash hmark]

/-- **One character.**  The next character is taken alike unless it is a mark passed over. -/
lemma agrees_concat {t : Text} {c : Char} (ht : Agrees t) (h : ¬ PassedOver t c) :
    Agrees (t ++ [c]) := by
  rw [Agrees, openMark_concat, ht, after_concat]
  rcases after_cases t with hstate | ⟨m, hm, hstate⟩ | ⟨m, hm, hstate, hback⟩
  · -- outside, a mark opens a literal
    by_cases hc : isLiteralMark c
    · have hback : t.getLast? ≠ some '\\' := fun hback => h ⟨hc, hback, Or.inl hstate⟩
      simp [markStep, hstate, hc, hback, mark?, step]
    · simp [markStep, hstate, hc, mark?, step]
  · -- inside, its own mark closes it
    by_cases hc : c = m
    · subst hc
      have hback : t.getLast? ≠ some '\\' := fun hback => h ⟨hm, hback, Or.inr hstate⟩
      simp [markStep, hstate, hm, hback, ne_backslash hm, mark?, step]
    · by_cases hslash : c = '\\' <;> simp [markStep, hstate, hc, hslash, mark?, step]
  · simp [markStep, hstate, hback, mark?, step]

/-! ## Runs of backslashes -/

/-- Outside a literal a run of backslashes does nothing; inside, its backslashes escape each other
in pairs. -/
lemma after_append_replicate (t : Text) (n : Nat) (m : Char) :
    (after t = outside → after (t ++ List.replicate n '\\') = outside) ∧
      (after t = inside m →
        after (t ++ List.replicate n '\\') = if Even n then inside m else escaped m) := by
  induction n with
  | zero => simp
  | succ n ih =>
      rw [List.replicate_succ', ← List.append_assoc, after_concat]
      constructor
      · intro h
        rw [ih.1 h]
        rfl
      · intro h
        rw [ih.2 h]
        by_cases hn : Even n <;> simp [hn, Nat.even_add_one, step]

/-- A text ends in a run of backslashes, which may be empty. -/
lemma exists_run_of_backslashes (t : Text) :
    ∃ s n, t = s ++ List.replicate n '\\' ∧ s.getLast? ≠ some '\\' := by
  induction t using List.reverseRecOn with
  | nil => exact ⟨[], 0, rfl, by simp⟩
  | append_singleton t c ih =>
      by_cases hc : c = '\\'
      · obtain ⟨s, n, rfl, hs⟩ := ih
        exact ⟨s, n + 1, by rw [hc, List.replicate_succ', List.append_assoc], hs⟩
      · exact ⟨t ++ [c], 0, by simp, by simpa using hc⟩

lemma getLast?_append_replicate {s : Text} (hs : s.getLast? ≠ some '\\') (n : Nat) :
    (s ++ List.replicate n '\\').getLast? = some '\\' ↔ 0 < n := by
  cases n with
  | zero => simpa using hs
  | succ n => simp [List.replicate_succ']

/-- A mark at position `k` of a line that does not count for the linter but does in the language: it
stands behind a run of `n` backslashes that starts outside of literals, or in the literal that the
mark closes, where an even number of backslashes leaves it unescaped. -/
def Misread (l : Text) (k : Nat) : Prop :=
  ∃ c s n, l[k]? = some c ∧ isLiteralMark c ∧
    l.take k = s ++ List.replicate n '\\' ∧ s.getLast? ≠ some '\\' ∧ 0 < n ∧
    (after s = outside ∨ after s = inside c ∧ Even n)

lemma misread_iff {l : Text} {k : Nat} :
    Misread l k ↔ ∃ c, l[k]? = some c ∧ PassedOver (l.take k) c := by
  constructor
  · rintro ⟨c, s, n, hc, hmark, hsplit, hs, hn, hstate⟩
    refine ⟨c, hc, hmark, ?_, ?_⟩
    · rw [hsplit, getLast?_append_replicate hs]
      exact hn
    · rw [hsplit]
      rcases hstate with hstate | ⟨hstate, heven⟩
      · exact Or.inl ((after_append_replicate s n c).1 hstate)
      · right
        rw [(after_append_replicate s n c).2 hstate, if_pos heven]
  · rintro ⟨c, hc, hmark, hback, hstate⟩
    obtain ⟨s, n, hsplit, hs⟩ := exists_run_of_backslashes (l.take k)
    rw [hsplit] at hback hstate
    refine ⟨c, s, n, hc, hmark, hsplit, hs, (getLast?_append_replicate hs n).mp hback, ?_⟩
    rcases after_cases s with h | ⟨m, -, h⟩ | ⟨m, -, -, h⟩
    · exact Or.inl h
    · rw [(after_append_replicate s n m).2 h] at hstate
      split_ifs at hstate with heven
      · obtain rfl : m = c := by simpa using hstate
        exact Or.inr ⟨h, heven⟩
      · simp at hstate
    · exact absurd h hs

/-! ## A whole line -/

lemma insideLiteral_eq {l : Text} {q : Nat} (hq : q < l.length) :
    insideLiteral l q = (openMark none none (l.take (q + 1))).isSome := by
  have hrange : ¬ ((q : Int) < 0 ∨ (l.length : Int) ≤ q) := by omega
  simp only [insideLiteral, Int.toNat_natCast, Bool.or_eq_true, decide_eq_true_eq]
  rw [if_neg hrange]

/-- While no mark is misread, the same literal is open for both. -/
lemma agrees_take {l : Text} {p : Nat} (h : ∀ k < p, ¬ Misread l k) :
    Agrees (l.take p) := by
  induction p with
  | zero => rfl
  | succ p ih =>
      have hbelow : Agrees (l.take p) := ih fun k hk => h k (by omega)
      rw [List.take_add_one]
      cases hc : l[p]? with
      | none => simpa using hbelow
      | some c =>
          have hread := h p (Nat.lt_succ_self p)
          exact agrees_concat hbelow fun hpass => hread (misread_iff.mpr ⟨c, hc, hpass⟩)

/-- **Literals are told as the language has them up to the first mark that is misread.**  Up to any
position, the linter's answers are those of the scanner exactly when no mark up to there follows a
run of backslashes that does not escape it: a run outside of literals, or an even one before the
mark that closes the literal. -/
theorem literals_told_until_misread (l : Text) (p : Nat) :
    (∀ q ≤ p, q < l.length →
      insideLiteral l q = (after (l.take (q + 1))).isOpen) ↔
    ∀ k ≤ p, ¬ Misread l k := by
  constructor
  · intro hanswers k hk
    -- the first misread mark would make the answers differ
    induction k using Nat.strong_induction_on with
    | _ k ih =>
        intro hmisread
        have hagrees : Agrees (l.take k) := agrees_take fun j hj => ih j hj (by omega)
        obtain ⟨c, hc, hpass⟩ := misread_iff.mp hmisread
        obtain ⟨hlength, -⟩ := List.getElem?_eq_some_iff.mp hc
        have hanswer := hanswers k hk hlength
        rw [insideLiteral_eq hlength, List.take_add_one, hc] at hanswer
        exact hpass.isOpen_ne hagrees hanswer
  · intro hread q hq hlength
    rw [insideLiteral_eq hlength, isOpen]
    exact congrArg Option.isSome (agrees_take fun k hk => hread k (by omega))

/-- An escaped backslash before the closing mark keeps the literal open for the linter, though not
in the language. -/
theorem literal_open_behind_escaped_backslash :
    ¬ ∀ (l : Text) (pos : Nat), pos < l.length →
      insideLiteral l pos = (after (l.take (pos + 1))).isOpen := by
  intro h
  exact absurd (h "'\\\\'".toList 3 (by decide)) (by decide)

end Quoting

end ReactLint
