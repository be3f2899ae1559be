import Mathlib.Algebra.BigOperators.Group.List.Basic
import Mathlib.Algebra.Ring.Int.Defs
import Mathlib.Data.List.Induction
import Mathlib.Order.Bounds.Basic
import Mathlib.Tactic.Common
import ReactLint.Block

/-!
# How deep a line goes

On the first line of a block a closing delimiter that closes nothing is passed over, so the count
starts again at zero behind it.  What the count gives at the end is therefore the most that any end
of the line leaves open.

**One character.**  The ends of a line with one more character are the empty one and the ends of the
line, each with that character.  A clamped step takes the maximum along
(`isGreatest_netOfSuffixes_concat`), and `isGreatest_foldl_clampedStep` is the whole line.

**Clamping.**  A line is its own end, so clamping never counts less than the balance.  It counts the
same exactly when no end leaves more open than the whole line, that is, when no beginning of the
line closes more than it opens (`forall_suffix_net_le_iff`).
-/

namespace ReactLint

open Text

namespace Delimiter

/-- Opening minus closing delimiters of a text. -/
def net (d : Delimiter) (t : Text) : Int := t.countP d.isOpen - t.countP d.isClose

/-- The net counts of the ends of a text, the empty one included. -/
def netOfSuffixes (d : Delimiter) (t : Text) : Set Int := {n | ∃ u, u <:+ t ∧ d.net u = n}

@[simp] lemma net_nil (d : Delimiter) : d.net [] = 0 := rfl

lemma net_append (d : Delimiter) (s t : Text) : d.net (s ++ t) = d.net s + d.net t := by
  simp only [net, List.countP_append, Nat.cast_add]
  omega

/-- No character both opens and closes. -/
lemma isClose_of_isOpen {d : Delimiter} {c : Char} (h : d.isOpen c = true) :
    d.isClose c = false := by
  cases d with
  | braceOrParen =>
      rcases (Bool.or_eq_true _ _).mp h with h | h
      · obtain rfl := beq_iff_eq.mp h
        rfl
      · obtain rfl := beq_iff_eq.mp h
        rfl
  | _ =>
      obtain rfl := beq_iff_eq.mp h
      rfl

lemma net_singleton (d : Delimiter) (c : Char) : d.net [c] = d.weight c := by
  rw [net, weight]
  cases hopen : d.isOpen c with
  | true => simp [hopen, isClose_of_isOpen hopen]
  | false => cases hclose : d.isClose c <;> simp [hopen, hclose]

lemma net_concat (d : Delimiter) (t : Text) (c : Char) :
    d.net (t ++ [c]) = d.net t + d.weight c := by
  rw [net_append, net_singleton]

lemma sum_weight_eq_net (d : Delimiter) (t : Text) : (t.map d.weight).sum = d.net t := by
  induction t using List.reverseRecOn with
  | nil => rfl
  | append_singleton t c ih => simp [net_concat, ih]

/-! ## The clamped count -/

/-- One clamped step is the plain step, cut off at zero. -/
lemma clampedStep_eq (d : Delimiter) (depth : Nat) (c : Char) :
    (d.clampedStep depth c : Int) = max 0 (depth + d.weight c) := by
  rw [Delimiter.clampedStep, Delimiter.weight]
  split_ifs <;> omega

/-- **One character.**  A clamped step goes from the greatest net count of the ends of a text to
that of the text with the character. -/
lemma isGreatest_netOfSuffixes_concat {d : Delimiter} {t : Text} {depth : Nat}
    (h : IsGreatest (d.netOfSuffixes t) depth) (c : Char) :
    IsGreatest (d.netOfSuffixes (t ++ [c])) (d.clampedStep depth c : Nat) := by
  obtain ⟨⟨u, hu, hnet⟩, hmax⟩ := h
  rw [d.clampedStep_eq]
  constructor
  · rcases Int.le_total (depth + d.weight c) 0 with hle | hle
    · exact ⟨[], List.nil_suffix, by rw [net_nil, Int.max_eq_left hle]⟩
    · refine ⟨u ++ [c], List.suffix_concat_iff.mpr (Or.inr ⟨u, rfl, hu⟩), ?_⟩
      rw [net_concat, hnet, Int.max_eq_right hle]
  · rintro n ⟨v, hv, rfl⟩
    rcases List.suffix_concat_iff.mp hv with rfl | ⟨w, rfl, hw⟩
    · exact Int.le_max_left _ _
    · have hle : d.net w ≤ depth := hmax ⟨w, hw, rfl⟩
      rw [net_concat]
      omega

/-- **The whole text.**  The clamped count is the greatest net count of an end. -/
lemma isGreatest_foldl_clampedStep (d : Delimiter) (t : Text) :
    IsGreatest (d.netOfSuffixes t) (t.foldl d.clampedStep 0 : Nat) := by
  induction t using List.reverseRecOn with
  | nil =>
      refine ⟨⟨[], List.nil_suffix, rfl⟩, ?_⟩
      rintro n ⟨u, hu, rfl⟩
      rw [List.suffix_nil.mp hu]
      exact Int.le_refl _
  | append_singleton t c ih =>
      rw [List.foldl_concat]
      exact isGreatest_netOfSuffixes_concat ih c

/-- No end leaves more open than the whole text exactly when no beginning closes more than it
opens. -/
lemma forall_suffix_net_le_iff {d : Delimiter} {t : Text} :
    (∀ u, u <:+ t → d.net u ≤ d.net t) ↔
      ∀ s, s <+: t → s.countP d.isClose ≤ s.countP d.isOpen := by
  have hsplit {s u : Text} : d.net u ≤ d.net (s ++ u) ↔ s.countP d.isClose ≤ s.countP d.isOpen := by
    rw [net_append]
    simp only [net]
    omega
  constructor
  · rintro h s ⟨u, rfl⟩
    exact hsplit.mp (h u (List.suffix_append s u))
  · rintro h u ⟨s, rfl⟩
    exact hsplit.mpr (h s (List.prefix_append s u))

/-- Braces and parentheses are counted together as they are apart: no character is both. -/
lemma weight_braceOrParen (c : Char) : braceOrParen.weight c = brace.weight c + paren.weight c := by
  by_cases hmark : c = '{' ∨ c = '(' ∨ c = '}' ∨ c = ')'
  · rcases hmark with rfl | rfl | rfl | rfl <;> rfl
  · simp only [not_or] at hmark
    simp [weight, isOpen, isClose, hmark]

end Delimiter

/-! ## Lines -/

lemma balance_eq_sum (d : Delimiter) (line : Text) :
    balance d line = if isCommentLine line then 0 else (line.map d.weight).sum := by
  rw [balance, List.sum, List.foldr_map]

lemma balance_eq_net {d : Delimiter} {line : Text} (h : isCommentLine line = false) :
    balance d line = d.net line := by
  rw [balance_eq_sum, h, if_neg Bool.false_ne_true, d.sum_weight_eq_net]

lemma isGreatest_openDepth {d : Delimiter} {line : Text} (h : isCommentLine line = false) :
    IsGreatest (d.netOfSuffixes line) (openDepth d line : Nat) := by
  rw [openDepth, h, if_neg Bool.false_ne_true]
  exact d.isGreatest_foldl_clampedStep line

/-- On a line that is no comment, clamping changes nothing exactly when every closing delimiter
closes one that the line opens before it. -/
lemma openDepth_eq_balance_iff {d : Delimiter} {line : Text} (h : isCommentLine line = false) :
    (openDepth d line : Int) = balance d line ↔
      ∀ s, s <+: line → s.countP d.isClose ≤ s.countP d.isOpen := by
  obtain ⟨⟨u, hu, hnet⟩, hmax⟩ := isGreatest_openDepth (d := d) h
  rw [balance_eq_net h, ← Delimiter.forall_suffix_net_le_iff]
  constructor
  · intro heq v hv
    rw [← heq]
    exact hmax ⟨v, hv, rfl⟩
  · intro hle
    have hself : d.net line ≤ openDepth d line := hmax ⟨line, List.suffix_rfl, rfl⟩
    have := hle u hu
    omega

lemma balance_braceOrParen (line : Text) :
    balance .braceOrParen line = balance .brace line + balance .paren line := by
  simp only [balance_eq_sum]
  split_ifs
  · rfl
  · rw [← List.sum_map_add, funext Delimiter.weight_braceOrParen]

/-- **The depth of a first line is a maximum.**  On a line that is no comment, the depth that it
goes to is the greatest number of opening minus closing delimiters in an end of the line, the empty
one included.  So it is at least zero and at least the balance, and it is the balance exactly when
no beginning of the line has more closing than opening delimiters.  On every line, braces and
parentheses counted together give what they give apart. -/
theorem openDepth_maximal_over_suffixes (d : Delimiter) (line : Text) :
    (isCommentLine line = false →
      IsGreatest {n : Int | ∃ u, u <:+ line ∧ (u.countP d.isOpen : Int) - u.countP d.isClose = n}
        (openDepth d line) ∧
      max 0 (balance d line) ≤ openDepth d line ∧
      ((openDepth d line : Int) = balance d line ↔
        ∀ s, s <+: line → s.countP d.isClose ≤ s.countP d.isOpen)) ∧
    balance .braceOrParen line = balance .brace line + balance .paren line := by
  refine ⟨fun h => ⟨isGreatest_openDepth h, ?_, openDepth_eq_balance_iff h⟩,
    balance_braceOrParen line⟩
  have hself : d.net line ≤ openDepth d line :=
    (isGreatest_openDepth h).2 ⟨line, List.suffix_rfl, rfl⟩
  rw [balance_eq_net h]
  omega

/-- A line that closes a block and opens another: its balance is zero, and its last character alone
leaves one block open. -/
theorem openDepth_maximal_over_suffixes_else :
    let l := '}' :: " else ".toList ++ ['{']
    isCommentLine l = false ∧ openDepth .brace l = 1 ∧ balance .brace l = 0 ∧
      ¬ ∀ s, s <+: l → s.countP Delimiter.brace.isClose ≤ s.countP Delimiter.brace.isOpen := by
  intro l
  have hcode : isCommentLine l = false := by decide
  have hdepth : openDepth .brace l = 1 := by decide
  have hbalance : balance .brace l = 0 := by decide
  obtain ⟨-, -, hclamped⟩ := (openDepth_maximal_over_suffixes .brace l).1 hcode
  refine ⟨hcode, hdepth, hbalance, ?_⟩
  rw [← hclamped, hdepth, hbalance]
  decide

end ReactLint
