import Mathlib.Data.List.GetD
import Mathlib.Tactic.Common
import ReactLint.Proofs.Block.Suffix

/-!
# Block ends and the character matcher

`blockEnd` counts whole lines: each line after the first counts with its net balance.  A matcher
that reads characters sees more.  It knows the depth after every single character, so it can tell a
line that closes a block and opens another (`} else {`) from one that leaves it alone.  This file
relates the two.

**The matcher.**  `Delimiter.read` lists the depth after every character of the lines, comment lines
skipped; `closingLine?` is the line on which the depth first is zero.  `lineDepth` is the depth at
the end of a line.

**The line counter as a matcher.**  `closingExtent_spec` says all that the line counter does: it
stops at the first line whose end depth is zero or below, and at the last line when there is none.
The depth changes by one at a time, so a depth that is never zero stays positive
(`depths_pos`), and the line counter cannot stop before the matcher does.

**First lines.**  `openDepth` passes over a closing delimiter that closes nothing.  On a line that
has no such delimiter it is the balance (`openDepth_eq_balance`), and then a closed block has
balance zero as a whole.
-/

namespace ReactLint

open Text

/-! ## The matcher -/

/-- The characters of a line that count: none on a comment line. -/
def codeOf (line : Text) : Text := if isCommentLine line then [] else line

/-- The depth after each character of a text that starts at `depth`. -/
def Delimiter.depths (d : Delimiter) (depth : Int) : Text → List Int
  | [] => []
  | c :: cs => (depth + d.weight c) :: d.depths (depth + d.weight c) cs

/-- The depth at the end of a line that starts at `depth`. -/
def Delimiter.depthAfter (d : Delimiter) (depth : Int) (line : Text) : Int :=
  (d.depths depth (codeOf line)).getLastD depth

/-- One character read: the index of its line and the depth after it. -/
structure Reading where
  line : Nat
  depth : Int
  deriving DecidableEq, Repr

/-- The characters of the lines in order, the first of which has index `n` and starts at
`depth`. -/
def Delimiter.read (d : Delimiter) (n : Nat) (depth : Int) : List Text → List Reading
  | [] => []
  | l :: ls =>
    (d.depths depth (codeOf l)).map (⟨n, ·⟩) ++ d.read (n + 1) (d.depthAfter depth l) ls

/-- The line below `s` on which the depth first is zero, when line `s` ends at `depth`. -/
def closingLine? (d : Delimiter) (lines : List Text) (s : Nat) (depth : Int) : Option Nat :=
  ((d.read (s + 1) depth (lines.drop (s + 1))).find? (·.depth = 0)).map Reading.line

/-- The depth at the end of line `j`, when line `s` above it ends at `depth`. -/
def lineDepth (d : Delimiter) (lines : List Text) (s : Nat) (depth : Int) (j : Nat) : Int :=
  ((lines.drop (s + 1)).take (j - s)).foldl d.depthAfter depth

/-- The line nearest to `start` that there is. -/
def nearestLine (lines : List Text) (start : Int) : Nat :=
  (min (max start 0) (lines.length - 1)).toNat

/-- Whether every closing delimiter of a line closes one that the line opens before it. -/
def ClosesOwn (d : Delimiter) (line : Text) : Prop :=
  ∀ k ≤ (codeOf line).length, 0 ≤ (((codeOf line).take k).map d.weight).sum

instance (d : Delimiter) (line : Text) : Decidable (ClosesOwn d line) :=
  inferInstanceAs (Decidable (∀ k ≤ (codeOf line).length, _))

/-- Whether a line below `s` ends at zero or below, when line `s` ends at `depth`. -/
def IsClosed (d : Delimiter) (lines : List Text) (s : Nat) (depth : Int) : Prop :=
  ∃ j < lines.length, s < j ∧ lineDepth d lines s depth j ≤ 0

instance (d : Delimiter) (lines : List Text) (s : Nat) (depth : Int) :
    Decidable (IsClosed d lines s depth) :=
  inferInstanceAs (Decidable (∃ j < lines.length, _))

lemma depths_getLastD (d : Delimiter) (depth : Int) (t : Text) :
    (d.depths depth t).getLastD depth = depth + (t.map d.weight).sum := by
  induction t generalizing depth with
  | nil => simp [Delimiter.depths]
  | cons c cs ih =>
      rw [Delimiter.depths, List.getLastD_cons, ih, List.map_cons, List.sum_cons]
      omega

/-- Reading a line adds its balance to the depth. -/
lemma depthAfter_eq (d : Delimiter) (depth : Int) (line : Text) :
    d.depthAfter depth line = depth + balance d line := by
  rw [Delimiter.depthAfter, depths_getLastD, balance_eq_sum, codeOf]
  split_ifs <;> simp

lemma foldl_depthAfter (d : Delimiter) (depth : Int) (ls : List Text) :
    ls.foldl d.depthAfter depth = depth + (ls.map (balance d)).sum := by
  induction ls generalizing depth with
  | nil => simp
  | cons l ls ih =>
      rw [List.foldl_cons, ih, depthAfter_eq, List.map_cons, List.sum_cons]
      omega

/-! ## The line counter -/

/-- **What the line counter does.**  It takes `closingExtent` lines: before the last of them no line
ends at zero or below, and the last one does unless there are no more lines. -/
lemma closingExtent_spec (d : Delimiter) (depth : Int) (ls : List Text) :
    (∀ j, 0 < j → j < closingExtent d depth ls → 0 < (ls.take j).foldl d.depthAfter depth) ∧
      (0 < closingExtent d depth ls ∧
          (ls.take (closingExtent d depth ls)).foldl d.depthAfter depth ≤ 0 ∨
        closingExtent d depth ls = ls.length ∧
          (0 < ls.length → 0 < ls.foldl d.depthAfter depth)) := by
  induction ls generalizing depth with
  | nil => simp [closingExtent]
  | cons l ls ih =>
      rw [closingExtent]
      by_cases hclosed : depth + balance d l ≤ 0
      · simp only [hclosed, if_true]
        refine ⟨fun j hpos hlt => by omega, Or.inl ⟨by omega, ?_⟩⟩
        simpa [depthAfter_eq] using hclosed
      · simp only [hclosed, if_false]
        obtain ⟨hbefore, hlast⟩ := ih (depth + balance d l)
        constructor
        · intro j hpos hlt
          obtain ⟨i, rfl⟩ : ∃ i, j = i + 1 := ⟨j - 1, by omega⟩
          rw [List.take_succ_cons, List.foldl_cons, depthAfter_eq]
          rcases Nat.eq_zero_or_pos i with rfl | hi
          · simpa using hclosed
          · exact hbefore i hi (by omega)
        · rcases hlast with ⟨hpos, hle⟩ | ⟨hall, hopen⟩
          · refine Or.inl ⟨by omega, ?_⟩
            rw [List.take_succ_cons, List.foldl_cons, depthAfter_eq]
            exact hle
          · refine Or.inr ⟨by rw [hall, List.length_cons], fun _ => ?_⟩
            rw [List.foldl_cons, depthAfter_eq]
            rcases Nat.eq_zero_or_pos ls.length with hnil | hne
            · rw [List.length_eq_zero_iff] at hnil
              subst hnil
              simpa using hclosed
            · exact hopen hne

/-- Lines that leave the block open, each of them, are all counted. -/
lemma closingExtent_append (d : Delimiter) {depth : Int} {ls : List Text}
    (hopen : ∀ k ≤ ls.length, 0 < depth + ((ls.take k).map (balance d)).sum) (rest : List Text) :
    closingExtent d depth (ls ++ rest)
      = ls.length + closingExtent d (depth + (ls.map (balance d)).sum) rest := by
  induction ls generalizing depth with
  | nil => simp
  | cons l ls ih =>
      have hstep : ∀ k ≤ ls.length,
          0 < depth + balance d l + ((ls.take k).map (balance d)).sum := by
        intro k hk
        have := hopen (k + 1) (Nat.succ_le_succ hk)
        rw [List.take_succ_cons, List.map_cons, List.sum_cons] at this
        omega
      have hfirst : ¬ depth + balance d l ≤ 0 := by simpa using hstep 0 (Nat.zero_le _)
      rw [List.cons_append, closingExtent, if_neg hfirst, ih hstep, List.map_cons, List.sum_cons,
        List.length_cons, ← Int.add_assoc]
      omega

/-! ## Characters and lines -/

lemma Delimiter.weight_ge (d : Delimiter) (c : Char) : -1 ≤ d.weight c := by
  rw [Delimiter.weight]
  split_ifs <;> omega

/-- The depth changes by one at a time, so it cannot fall below zero without being zero. -/
lemma depths_pos (d : Delimiter) {depth : Int} (hpos : 0 < depth) {t : Text}
    (hne : ∀ x ∈ d.depths depth t, x ≠ 0) : 0 < (d.depths depth t).getLastD depth := by
  induction t generalizing depth with
  | nil => simpa [Delimiter.depths] using hpos
  | cons c cs ih =>
      rw [Delimiter.depths] at hne ⊢
      have hge := d.weight_ge c
      have hhead : depth + d.weight c ≠ 0 := hne _ List.mem_cons_self
      rw [List.getLastD_cons]
      exact ih (by omega) fun x hx => hne x (List.mem_cons_of_mem _ hx)

/-- A matcher that never reads a zero leaves every line at a positive depth. -/
lemma foldl_depthAfter_pos (d : Delimiter) {depth : Int} (hpos : 0 < depth) {n : Nat}
    {ls : List Text} (hne : ∀ r ∈ d.read n depth ls, r.depth ≠ 0) (j : Nat) :
    0 < (ls.take j).foldl d.depthAfter depth := by
  induction ls generalizing depth n j with
  | nil => simpa using hpos
  | cons l ls ih =>
      rw [Delimiter.read] at hne
      cases j with
      | zero => simpa using hpos
      | succ j =>
          have hline : 0 < d.depthAfter depth l := depths_pos d hpos fun x hx =>
            hne ⟨n, x⟩ (List.mem_append_left _ (List.mem_map_of_mem hx))
          rw [List.take_succ_cons, List.foldl_cons]
          exact ih hline (fun r hr => hne r (List.mem_append_right _ hr)) j

/-- The line of the first zero is one of the lines, and every line above it ends at a positive
depth. -/
lemma foldl_depthAfter_pos_of_find (d : Delimiter) {depth : Int} (hpos : 0 < depth) {n : Nat}
    {ls : List Text} {r : Reading} (hfind : (d.read n depth ls).find? (·.depth = 0) = some r) :
    n ≤ r.line ∧ r.line < n + ls.length ∧
      ∀ j, j ≤ r.line - n → 0 < (ls.take j).foldl d.depthAfter depth := by
  induction ls generalizing depth n with
  | nil => simp [Delimiter.read] at hfind
  | cons l ls ih =>
      rw [Delimiter.read, List.find?_append] at hfind
      cases hhere : ((d.depths depth (codeOf l)).map (Reading.mk n ·)).find? (·.depth = 0) with
      | some r' =>
          rw [hhere, Option.some_or, Option.some.injEq] at hfind
          subst hfind
          obtain ⟨x, -, rfl⟩ := List.mem_map.mp (List.mem_of_find?_eq_some hhere)
          refine ⟨Nat.le_refl _, by simp, fun j hj => ?_⟩
          have hzero : j = 0 := by simpa using hj
          simpa [hzero] using hpos
      | none =>
          rw [hhere, Option.none_or] at hfind
          have hline : 0 < d.depthAfter depth l := depths_pos d hpos fun x hx => by
            have := List.find?_eq_none.mp hhere ⟨n, x⟩ (List.mem_map_of_mem hx)
            simpa using this
          obtain ⟨hlow, hhigh, hbefore⟩ := ih hline hfind
          refine ⟨by omega, by simp only [List.length_cons]; omega, fun j hj => ?_⟩
          cases j with
          | zero => simpa using hpos
          | succ j =>
              rw [List.take_succ_cons, List.foldl_cons]
              exact hbefore j (by omega)

/-! ## The first line of a block -/

/-- On a line that closes only what it opens, clamping changes nothing. -/
lemma openDepth_eq_balance {d : Delimiter} {line : Text} (hown : ClosesOwn d line) :
    (openDepth d line : Int) = balance d line := by
  cases hcomment : isCommentLine line with
  | true => simp [openDepth, balance, hcomment]
  | false =>
      have hcode : codeOf line = line := by simp [codeOf, hcomment]
      rw [openDepth_eq_balance_iff hcomment]
      intro s hs
      have hnonneg := hown s.length (by rw [hcode]; exact hs.length_le)
      rw [hcode, ← List.prefix_iff_eq_take.mp hs, d.sum_weight_eq_net, Delimiter.net] at hnonneg
      omega

/-! ## The block as a whole -/

lemma nearestLine_lt {lines : List Text} (hne : lines ≠ []) (start : Int) :
    nearestLine lines start < lines.length := by
  have := List.length_pos_iff.mpr hne
  rw [nearestLine]
  omega

lemma blockEnd_eq {lines : List Text} (hne : lines ≠ []) (d : Delimiter) (start : Int) :
    blockEnd d lines start = nearestLine lines start +
      if openDepth d (lines.getD (nearestLine lines start) []) = 0 then 0
      else closingExtent d (openDepth d (lines.getD (nearestLine lines start) []))
        (lines.drop (nearestLine lines start + 1)) := by
  have hlt := nearestLine_lt hne start
  have hfirst : min start.toNat (lines.length - 1) = nearestLine lines start := by
    rw [nearestLine]
    omega
  rw [blockEnd, hfirst, List.drop_eq_getElem_cons hlt, extent, List.getD_eq_getElem _ _ hlt]

lemma blockEnd_bounds {lines : List Text} (hne : lines ≠ []) (d : Delimiter) (start : Int) :
    nearestLine lines start ≤ blockEnd d lines start ∧
      blockEnd d lines start ≤ lines.length - 1 := by
  have hlt := nearestLine_lt hne start
  rw [blockEnd_eq hne d start]
  split_ifs
  · omega
  · have hle := closingExtent_le d (openDepth d (lines.getD (nearestLine lines start) []))
      (lines.drop (nearestLine lines start + 1))
    rw [List.length_drop] at hle
    omega

/-- Line `e` ends the block that is open at the end of line `s`, among the lines up to `last` with
end depths `depthAt`. -/
structure EndsBlock (depthAt : Nat → Int) (s last e : Nat) : Prop where
  start_le : s ≤ e
  le_last : e ≤ last
  open_before : ∀ j, s < j → j < e → 0 < depthAt j
  closed_or_last : s < e ∧ depthAt e ≤ 0 ∨ e = last ∧ (s < last → 0 < depthAt last)

namespace EndsBlock

variable {depthAt : Nat → Int} {s last e m : Nat}

/-- Lines that end at a positive depth are not past the end of the block. -/
lemma le_end (h : EndsBlock depthAt s last e) (hm : m ≤ last)
    (hopen : ∀ j, s < j → j < m → 0 < depthAt j) : m ≤ e := by
  rcases h.closed_or_last with ⟨hse, hle⟩ | ⟨heq, -⟩
  · by_contra hlt
    have := hopen e hse (by omega)
    omega
  · omega

/-- A block that no line closes ends on the last line. -/
lemma eq_last (h : EndsBlock depthAt s last e)
    (hopen : ∀ j, s < j → j ≤ last → 0 < depthAt j) : e = last := by
  have hle := h.le_end (Nat.le_refl last) fun j hsj hj => hopen j hsj (by omega)
  have := h.le_last
  omega

/-- A block does not go past a line that ends at zero or below. -/
lemma end_le (h : EndsBlock depthAt s last e) (hsm : s < m) (hclosed : depthAt m ≤ 0) : e ≤ m := by
  by_contra hlt
  have := h.open_before m hsm (by omega)
  omega

/-- A block that some line closes ends on one that ends at zero or below. -/
lemma depth_end_le (h : EndsBlock depthAt s last e) (hsm : s < m) (hm : m ≤ last)
    (hclosed : depthAt m ≤ 0) : s < e ∧ depthAt e ≤ 0 := by
  rcases h.closed_or_last with hend | ⟨rfl, hend⟩
  · exact hend
  · have hme : m = e := by
      have := h.end_le hsm hclosed
      omega
    subst hme
    have := hend hsm
    omega

end EndsBlock

/-- `closingExtent_spec` in terms of the file: the end of an open block is the first line below its
start that ends at zero or below, or the last line. -/
lemma blockEnd_endsBlock {lines : List Text} (hne : lines ≠ []) (d : Delimiter) (start : Int)
    (hopen : 0 < openDepth d (lines.getD (nearestLine lines start) [])) :
    EndsBlock (lineDepth d lines (nearestLine lines start)
        (openDepth d (lines.getD (nearestLine lines start) [])))
      (nearestLine lines start) (lines.length - 1) (blockEnd d lines start) := by
  obtain ⟨hse, hel⟩ := blockEnd_bounds hne d start
  have hlt := nearestLine_lt hne start
  have hend := blockEnd_eq hne d start
  rw [if_neg (Nat.ne_of_gt hopen)] at hend
  generalize nearestLine lines start = s at *
  have hlength : (lines.drop (s + 1)).length = lines.length - 1 - s := by
    rw [List.length_drop]
    omega
  obtain ⟨hbefore, hlast⟩ :=
    closingExtent_spec d (openDepth d (lines.getD s [])) (lines.drop (s + 1))
  refine ⟨hse, hel, fun j hsj hje => hbefore (j - s) (by omega) (by omega), ?_⟩
  rcases hlast with ⟨hpos, hle⟩ | ⟨hall, hopen'⟩
  · refine Or.inl ⟨by omega, ?_⟩
    rw [hend, lineDepth, Nat.add_sub_cancel_left]
    exact hle
  · refine Or.inr ⟨by omega, fun hmore => ?_⟩
    rw [lineDepth, List.take_of_length_le (by omega)]
    exact hopen' (by omega)

/-- A matcher that never reads a zero sees every line end at a positive depth. -/
lemma lineDepth_pos_of_none {d : Delimiter} {lines : List Text} {s : Nat} {depth : Int}
    (hpos : 0 < depth) (hnone : closingLine? d lines s depth = none) (j : Nat) :
    0 < lineDepth d lines s depth j := by
  rw [closingLine?, Option.map_eq_none_iff, List.find?_eq_none] at hnone
  exact foldl_depthAfter_pos d hpos (fun r hr => by simpa using hnone r hr) (j - s)

/-- The line of the matcher's first zero lies below the start, and the lines above it end at a
positive depth. -/
lemma lineDepth_pos_of_some {d : Delimiter} {lines : List Text} {s m : Nat} {depth : Int}
    (hpos : 0 < depth) (hsome : closingLine? d lines s depth = some m) :
    s < m ∧ m < lines.length ∧ ∀ j, j < m → 0 < lineDepth d lines s depth j := by
  rw [closingLine?, Option.map_eq_some_iff] at hsome
  obtain ⟨r, hfind, rfl⟩ := hsome
  obtain ⟨hlow, hhigh, hbefore⟩ := foldl_depthAfter_pos_of_find d hpos hfind
  rw [List.length_drop] at hhigh
  exact ⟨by omega, by omega, fun j hj => hbefore (j - s) (by omega)⟩

/-- When the first line closes only what it opens, the depth at the end of a line is the balance of
all lines down to it. -/
lemma sum_balance_eq_lineDepth {d : Delimiter} {lines : List Text} {s e : Nat}
    (hlt : s < lines.length) (hle : s ≤ e) (hown : ClosesOwn d (lines.getD s [])) :
    (((lines.drop s).take (e + 1 - s)).map (balance d)).sum =
      lineDepth d lines s (openDepth d (lines.getD s [])) e := by
  have hcount : e + 1 - s = (e - s) + 1 := by omega
  rw [lineDepth, foldl_depthAfter, openDepth_eq_balance hown, hcount,
    List.drop_eq_getElem_cons hlt, List.take_succ_cons, List.map_cons, List.sum_cons,
    List.getD_eq_getElem _ _ hlt]

/-- **Block ends against the matcher.**  Let `s` be the line nearest to `start` and `depth` how deep
it goes.  The block ends between `s` and the last line.  When `s` opens nothing it ends on `s`.
When the matcher never reads depth zero, it ends on the last line; when it first does on line `m`,
the block does not end before `m`, and it ends on `m` exactly when `m` ends at zero or below or is
the last line.  In general the block ends on the first line below `s` that ends at zero or below,
and on the last line when there is none.  A closed block whose first line closes only what it opens,
and which nowhere falls below zero, has balance zero as a whole. -/
theorem blockEnd_matches (lines : List Text) (hne : lines ≠ []) (d : Delimiter) (start : Int) :
    let s := nearestLine lines start
    let last := lines.length - 1
    let depth := openDepth d (lines.getD s [])
    let depthAt := lineDepth d lines s depth
    let e := blockEnd d lines start
    (s ≤ e ∧ e ≤ last) ∧
      (depth = 0 → e = s) ∧
      (0 < depth → closingLine? d lines s depth = none → e = last) ∧
      (0 < depth → ∀ m, closingLine? d lines s depth = some m →
        m ≤ e ∧ (e = m ↔ depthAt m ≤ 0 ∨ m = last)) ∧
      (0 < depth → ∀ j, s < j → j ≤ last → depthAt j ≤ 0 →
        (∀ i < j, s < i → 0 < depthAt i) → e = j) ∧
      (0 < depth → ¬ IsClosed d lines s depth → e = last) ∧
      (ClosesOwn d (lines.getD s []) → (∀ j ≤ e, s < j → 0 ≤ depthAt j) →
        depth = 0 ∨ IsClosed d lines s depth →
          (((lines.drop s).take (e + 1 - s)).map (balance d)).sum = 0) := by
  intro s last depth depthAt e
  obtain ⟨hse, hel⟩ : s ≤ e ∧ e ≤ last := blockEnd_bounds hne d start
  have hzero : depth = 0 → e = s := fun h => by
    rw [show e = _ from blockEnd_eq hne d start, if_pos h, Nat.add_zero]
  have hends : 0 < depth → EndsBlock depthAt s last e := blockEnd_endsBlock hne d start
  refine ⟨⟨hse, hel⟩, hzero, fun hpos hnone => ?_, fun hpos m hsome => ?_,
    fun hpos j hsj hjl hj hbefore => ?_, fun hpos hopen => ?_, fun hown hnonneg hclosed => ?_⟩
  · have hall := lineDepth_pos_of_none (by exact_mod_cast hpos) hnone
    exact (hends hpos).eq_last fun j _ _ => hall j
  · obtain ⟨hsm, hml, hbefore⟩ := lineDepth_pos_of_some (by exact_mod_cast hpos) hsome
    have h := hends hpos
    have hme : m ≤ e := h.le_end (by omega) fun j _ hj => hbefore j hj
    refine ⟨hme, fun heq => ?_, ?_⟩
    · rcases h.closed_or_last with ⟨-, hle⟩ | ⟨hlast, -⟩
      · exact Or.inl (heq ▸ hle)
      · exact Or.inr (heq ▸ hlast)
    · rintro (hle | hlast)
      · have := h.end_le hsm hle
        omega
      · omega
  · have hle := (hends hpos).end_le hsj hj
    have hge := (hends hpos).le_end hjl fun i hsi hij => hbefore i hij hsi
    omega
  · refine (hends hpos).eq_last fun j hsj hj => ?_
    by_contra hle
    exact hopen ⟨j, by omega, hsj, Int.not_lt.mp hle⟩
  · rw [sum_balance_eq_lineDepth (nearestLine_lt hne start) hse hown]
    show depthAt e = 0
    rcases Nat.eq_zero_or_pos depth with h0 | hpos
    · have hstart : depthAt e = depth := by simp [depthAt, lineDepth, hzero h0]
      rw [hstart, h0]
      rfl
    · obtain ⟨j, hjl, hsj, hj⟩ := hclosed.resolve_left (Nat.ne_of_gt hpos)
      obtain ⟨hse', hle⟩ := (hends hpos).depth_end_le hsj (by omega) hj
      have := hnonneg e (Nat.le_refl e) hse'
      omega

/-- An `else` between two braces: the matcher reads zero on it, the block goes on to the brace that
closes the second one, and its three lines balance. -/
theorem blockEnd_matches_else :
    let lines := ["if (a) ".toList ++ ['{'], '}' :: " else ".toList ++ ['{'], ['}']]
    closingLine? .brace lines 0 1 = some 1 ∧ 1 ≤ blockEnd .brace lines 0 ∧
      blockEnd .brace lines 0 = 2 ∧ (lines.map (balance .brace)).sum = 0 := by
  intro lines
  obtain ⟨-, -, -, hmatcher, hfirst, -, hsum⟩ := blockEnd_matches lines (by decide) .brace 0
  have hend : blockEnd .brace lines 0 = 2 :=
    hfirst (by decide) 2 (by decide) (by decide) (by decide) (by decide)
  have hone : closingLine? .brace lines 0 1 = some 1 := by decide
  refine ⟨hone, (hmatcher (by decide) 1 hone).1, hend, ?_⟩
  have := hsum (by decide) (by rw [hend]; decide) (by decide)
  rwa [hend] at this

/-- On the last line there is nowhere to go on to: a block that is closed there and opened again
ends there all the same, although the line ends at a positive depth. -/
theorem blockEnd_last_line_reopened :
    let lines := [['{'], ['}', ' ', '{']]
    ¬ ∀ m, closingLine? .brace lines 0 (openDepth .brace (lines.getD 0 [])) = some m →
      (blockEnd .brace lines 0 = m ↔
        lineDepth .brace lines 0 (openDepth .brace (lines.getD 0 [])) m ≤ 0) := by
  intro lines h
  have := h 1 (by decide)
  revert this
  decide

end ReactLint
