import Mathlib.Data.List.Pairwise
import Mathlib.Logic.Function.Iterate
import Mathlib.Order.Bounds.Basic
import Mathlib.Order.Interval.Set.Defs
import ReactLint.Cover
import ReactLint.Proofs.Block.Matcher

/-!
# Greedy covers

Blocks of one kind are visited from the top, and each visit goes on below the last line of the
block.  This file says which lines are visited, and that none is lost by the jumps.

**The choice.**  From an index on, the first line that starts a block is visited, and the choice
goes on behind the last line of that block (`Greedy`).  A block never ends above its first line.  So
the blocks visited do not meet (`Greedy.separated`), and a line that starts a block and is not
visited lies in one of them (`Greedy.covers`).

**The loop.**  The same is done by a loop over an index that is set to the last line of a block and
then moved on (`CoverLoop.step`).  What it has found together with what is still to be visited stays
the same in every round (`found_step`), and every round moves the index down.  After as many rounds
as there are lines it has therefore come to its end.
-/

namespace ReactLint

open Text

/-! ## Visits from an index on -/

section Visits

variable (isStart : Text → Bool) (d : Delimiter) (lines : List Text)

/-- The indices of the lines on which a block starts. -/
def startsOf : Set Nat := {t | ∃ l ∈ lines[t]?, isStart l = true}

/-- The blocks visited from line `i` on. -/
def coverBelow (i : Nat) : List (Located Nat) := coverFrom isStart d (i + 1) 0 (lines.drop i)

/-- The indices of the lines on which the blocks visited start. -/
def visited : List Nat := (cover isStart d lines).map fun b => b.line - 1

variable {isStart d lines}

lemma coverFrom_skip (n skip : Nat) (ls : List Text) :
    coverFrom isStart d n skip ls = coverFrom isStart d (n + skip) 0 (ls.drop skip) := by
  induction ls generalizing n skip with
  | nil => simp [coverFrom]
  | cons l ls ih =>
      cases skip with
      | zero => rfl
      | succ skip =>
          rw [coverFrom, ih, List.drop_succ_cons, Nat.add_assoc, Nat.add_comm 1 skip]

lemma blockEnd_of_lt {i : Nat} (hi : i < lines.length) :
    blockEnd d lines i = i + extent d (lines.drop i) := by
  have hfirst : min (i : Int).toNat (lines.length - 1) = i := by omega
  rw [blockEnd, hfirst]

lemma lt_of_mem_startsOf {t : Nat} (ht : t ∈ startsOf isStart lines) : t < lines.length := by
  obtain ⟨l, hl, -⟩ := ht
  exact (List.getElem?_eq_some_iff.mp hl).1

lemma le_blockEnd {i : Nat} (hi : i < lines.length) : i ≤ blockEnd d lines i := by
  rw [blockEnd_of_lt hi]
  exact Nat.le_add_right _ _

lemma coverBelow_of_length_le {i : Nat} (hi : lines.length ≤ i) :
    coverBelow isStart d lines i = [] := by
  rw [coverBelow, List.drop_eq_nil_of_le hi, coverFrom]

lemma coverBelow_of_not_start {i : Nat} {l : Text} (hl : lines[i]? = some l)
    (hstart : ¬ isStart l = true) :
    coverBelow isStart d lines i = coverBelow isStart d lines (i + 1) := by
  obtain ⟨hi, rfl⟩ := List.getElem?_eq_some_iff.mp hl
  rw [coverBelow, List.drop_eq_getElem_cons hi, coverFrom, if_neg hstart, coverBelow]

/-- A block is visited with its number of lines, and then what starts behind its last line. -/
lemma coverBelow_of_start {i : Nat} {l : Text} (hl : lines[i]? = some l)
    (hstart : isStart l = true) :
    coverBelow isStart d lines i =
      ⟨i + 1, blockEnd d lines i - i + 1⟩ ::
        coverBelow isStart d lines (blockEnd d lines i + 1) := by
  obtain ⟨hi, rfl⟩ := List.getElem?_eq_some_iff.mp hl
  have hrest (k : Nat) : (lines.drop (i + 1)).drop k = lines.drop (i + k + 1) := by
    rw [List.drop_drop]
    congr 1
    omega
  rw [blockEnd_of_lt hi, Nat.add_sub_cancel_left, coverBelow, coverBelow,
    List.drop_eq_getElem_cons hi, coverFrom, if_pos hstart]
  dsimp only
  rw [coverFrom_skip, hrest, show i + 1 + 1 + extent d (lines[i] :: lines.drop (i + 1))
    = i + extent d (lines[i] :: lines.drop (i + 1)) + 1 + 1 by omega]

end Visits

/-! ## The greedy choice -/

/-- The visits `vs` made from index `lo` on, when a block may start at the indices in `T` and the
one that starts at `t` ends at `last t`. -/
inductive Greedy (T : Set Nat) (last : Nat → Nat) : Nat → List Nat → Prop
  | done {lo : Nat} (h : ∀ t ∈ T, t < lo) : Greedy T last lo []
  | visit {lo v : Nat} {vs : List Nat} (hv : IsLeast {t ∈ T | lo ≤ t} v)
      (h : Greedy T last (last v + 1) vs) : Greedy T last lo (v :: vs)

namespace Greedy

variable {T : Set Nat} {last : Nat → Nat} {lo : Nat} {vs : List Nat}

lemma of_succ (h : Greedy T last (lo + 1) vs) (hlo : lo ∉ T) : Greedy T last lo vs := by
  have hne {t : Nat} (ht : t ∈ T) : t ≠ lo := by
    rintro rfl
    exact hlo ht
  cases h with
  | done hbelow =>
      refine done fun t ht => ?_
      have := hbelow t ht
      have := hne ht
      omega
  | visit hv h =>
      refine visit ⟨⟨hv.1.1, Nat.le_of_succ_le hv.1.2⟩, ?_⟩ h
      rintro t ⟨ht, hle⟩
      have := hne ht
      exact hv.2 ⟨ht, by omega⟩

lemma mem_starts (h : Greedy T last lo vs) : ∀ v ∈ vs, v ∈ T := by
  induction h with
  | done => simp
  | visit hv _ ih => exact List.forall_mem_cons.mpr ⟨hv.1.1, ih⟩

lemma isLeast_head (h : Greedy T last lo vs) : ∀ v ∈ vs.head?, IsLeast {t ∈ T | lo ≤ t} v := by
  cases h with
  | done => simp
  | visit hv h =>
      intro v hmem
      obtain rfl := Option.some.inj hmem
      exact hv

lemma isLeast_next (h : Greedy T last lo vs) {k v w : Nat} (hv : vs[k]? = some v)
    (hw : vs[k + 1]? = some w) : IsLeast {t ∈ T | last v < t} w := by
  induction h generalizing k with
  | done => simp at hv
  | visit hleast h ih =>
      rw [List.getElem?_cons_succ] at hw
      cases k with
      | zero =>
          obtain rfl := Option.some.inj hv
          exact h.isLeast_head w (by rwa [List.head?_eq_getElem?])
      | succ k => exact ih (by rwa [List.getElem?_cons_succ] at hv) hw

/-- **No start is lost**: it lies in a block that is visited. -/
lemma covers (h : Greedy T last lo vs) {t : Nat} (ht : t ∈ T) (hlo : lo ≤ t) :
    ∃ v ∈ vs, t ∈ Set.Icc v (last v) := by
  induction h with
  | done hbelow => exact absurd (hbelow t ht) (Nat.not_lt.mpr hlo)
  | @visit lo v vs hv h ih =>
      have hle : v ≤ t := hv.2 ⟨ht, hlo⟩
      rcases Nat.lt_or_ge (last v) t with hbehind | hinside
      · obtain ⟨w, hw, hwt⟩ := ih hbehind
        exact ⟨w, List.mem_cons_of_mem _ hw, hwt⟩
      · exact ⟨v, List.mem_cons_self, hle, hinside⟩

section

variable (hlast : ∀ t ∈ T, t ≤ last t)
include hlast

lemma le_of_mem (h : Greedy T last lo vs) : ∀ v ∈ vs, lo ≤ v := by
  induction h with
  | done => simp
  | @visit lo v vs hv h ih =>
      refine List.forall_mem_cons.mpr ⟨hv.1.2, ?_⟩
      intro w hw
      have := ih w hw
      have := hlast v hv.1.1
      have := hv.1.2
      omega

/-- **The blocks visited do not meet**: each starts behind the end of all those before. -/
lemma separated (h : Greedy T last lo vs) : vs.Pairwise fun v w => last v < w := by
  induction h with
  | done => exact List.Pairwise.nil
  | visit _ h ih => exact List.pairwise_cons.mpr ⟨h.le_of_mem hlast, ih⟩

end

end Greedy

/-- The starts `vs` of blocks chosen greedily among those in `T`, the block that starts at `t`
ending at `last t`. -/
structure IsGreedyCover (T : Set Nat) (last : Nat → Nat) (vs : List Nat) : Prop where
  first : ∀ v ∈ vs.head?, IsLeast T v
  next : ∀ k v w, vs[k]? = some v → vs[k + 1]? = some w → IsLeast {t ∈ T | last v < t} w
  increasing : vs.Pairwise (· < ·)
  disjoint : vs.Pairwise fun v w => ∀ t ∈ Set.Icc v (last v), t ∉ Set.Icc w (last w)
  covers : ∀ t ∈ T, ∃! v, v ∈ vs ∧ t ∈ Set.Icc v (last v)

lemma Greedy.isGreedyCover {T : Set Nat} {last : Nat → Nat} {vs : List Nat}
    (hlast : ∀ t ∈ T, t ≤ last t) (h : Greedy T last 0 vs) : IsGreedyCover T last vs := by
  have hseparated := h.separated hlast
  have hdisjoint : vs.Pairwise fun v w => ∀ t ∈ Set.Icc v (last v), t ∉ Set.Icc w (last w) := by
    refine hseparated.imp fun hlt => ?_
    rintro t ⟨-, hle⟩ ⟨hge, -⟩
    omega
  refine ⟨?_, fun k v w => h.isLeast_next, ?_, hdisjoint, ?_⟩
  · intro v hv
    simpa using h.isLeast_head v hv
  · refine hseparated.imp_of_mem ?_
    intro v w hv _ hlt
    exact Nat.lt_of_le_of_lt (hlast v (h.mem_starts v hv)) hlt
  · intro t ht
    obtain ⟨v, hv, hvt⟩ := h.covers ht (Nat.zero_le t)
    refine ⟨v, ⟨hv, hvt⟩, ?_⟩
    rintro w ⟨hw, hwt⟩
    by_contra hne
    -- two blocks that hold the same line would meet
    have : Std.Symm fun v w => ∀ t ∈ Set.Icc v (last v), t ∉ Set.Icc w (last w) :=
      ⟨fun _ _ h t hw hv => h t hv hw⟩
    exact hdisjoint.forall hw hv hne t hwt hvt

section Loop

variable (isStart : Text → Bool) (d : Delimiter) (lines : List Text)

/-- The visits from a line on are the greedy choice.  By induction on the lines that are left. -/
lemma greedy_coverBelow (i : Nat) :
    Greedy (startsOf isStart lines) (fun v => blockEnd d lines v) i
      ((coverBelow isStart d lines i).map fun b => b.line - 1) := by
  cases hl : lines[i]? with
  | none =>
      have hi := List.getElem?_eq_none_iff.mp hl
      rw [coverBelow_of_length_le hi]
      exact .done fun t ht => Nat.lt_of_lt_of_le (lt_of_mem_startsOf ht) hi
  | some l =>
      have hi : i < lines.length := (List.getElem?_eq_some_iff.mp hl).1
      by_cases hstart : isStart l = true
      · have hle : i ≤ blockEnd d lines i := le_blockEnd hi
        rw [coverBelow_of_start hl hstart, List.map_cons]
        refine .visit ⟨⟨⟨l, hl, hstart⟩, Nat.le_refl i⟩, fun t ht => ht.2⟩ ?_
        exact greedy_coverBelow (blockEnd d lines i + 1)
      · rw [coverBelow_of_not_start hl hstart]
        refine (greedy_coverBelow (i + 1)).of_succ ?_
        rintro ⟨l', hl', hstart'⟩
        exact hstart (Option.some.inj (hl.symm.trans hl') ▸ hstart')
termination_by lines.length - i

/-- A block is visited with its number of lines. -/
lemma coverBelow_eq_map (i : Nat) :
    coverBelow isStart d lines i =
      ((coverBelow isStart d lines i).map fun b => b.line - 1).map
        fun v => ⟨v + 1, blockEnd d lines v - v + 1⟩ := by
  cases hl : lines[i]? with
  | none =>
      rw [coverBelow_of_length_le (List.getElem?_eq_none_iff.mp hl), List.map_nil, List.map_nil]
  | some l =>
      have hi : i < lines.length := (List.getElem?_eq_some_iff.mp hl).1
      by_cases hstart : isStart l = true
      · have hle : i ≤ blockEnd d lines i := le_blockEnd hi
        rw [coverBelow_of_start hl hstart, List.map_cons, List.map_cons,
          ← coverBelow_eq_map (blockEnd d lines i + 1)]
        rfl
      · rw [coverBelow_of_not_start hl hstart]
        exact coverBelow_eq_map (i + 1)
termination_by lines.length - i

lemma visited_eq :
    cover isStart d lines
      = (visited isStart d lines).map fun v => ⟨v + 1, blockEnd d lines v - v + 1⟩ := by
  have h := coverBelow_eq_map isStart d lines 0
  rwa [coverBelow, List.drop_zero] at h

/-! ## The loop -/

/-- A loop over the lines: the index of the line that it looks at, and the blocks that it has
found. -/
structure CoverLoop where
  index : Nat
  found : List (Located Nat)

namespace CoverLoop

/-- One round of the loop; behind the last line nothing is left to do. -/
def step (s : CoverLoop) : CoverLoop :=
  match lines[s.index]? with
  | none => s
  | some l =>
    if isStart l then
      let last := blockEnd d lines s.index
      ⟨last + 1, s.found ++ [⟨s.index + 1, last - s.index + 1⟩]⟩
    else ⟨s.index + 1, s.found⟩

variable {isStart d lines}

/-- **What a round keeps**: the blocks found and those still to be visited, taken together. -/
lemma found_step (s : CoverLoop) :
    (s.step isStart d lines).found ++ coverBelow isStart d lines (s.step isStart d lines).index
      = s.found ++ coverBelow isStart d lines s.index := by
  rw [step]
  cases hl : lines[s.index]? with
  | none => rfl
  | some l =>
      dsimp only
      split_ifs with hstart
      · rw [coverBelow_of_start hl hstart, List.append_assoc, List.singleton_append]
      · rw [← coverBelow_of_not_start hl hstart]

/-- Every round moves the index down, as long as there are lines. -/
lemma lt_index_step {s : CoverLoop} (h : s.index < lines.length) :
    s.index < (s.step isStart d lines).index := by
  rw [step, List.getElem?_eq_getElem h]
  dsimp only
  split_ifs
  · exact Nat.lt_succ_of_le (le_blockEnd h)
  · exact Nat.lt_succ_self _

lemma step_of_length_le {s : CoverLoop} (h : lines.length ≤ s.index) :
    s.step isStart d lines = s := by
  rw [step, List.getElem?_eq_none h]

/-- A loop that has as many rounds as there are lines left comes to its end, and has found what was
still to be visited. -/
lemma iterate_step (k : Nat) (s : CoverLoop) (h : lines.length ≤ s.index + k) :
    lines.length ≤ ((step isStart d lines)^[k] s).index ∧
      ((step isStart d lines)^[k] s).found = s.found ++ coverBelow isStart d lines s.index := by
  induction k generalizing s with
  | zero =>
      rw [Nat.add_zero] at h
      rw [coverBelow_of_length_le h, List.append_nil]
      exact ⟨h, rfl⟩
  | succ k ih =>
      have hnext : lines.length ≤ (s.step isStart d lines).index + k := by
        rcases Nat.lt_or_ge s.index lines.length with hlt | hge
        · have : s.index < (s.step isStart d lines).index := lt_index_step hlt
          omega
        · rw [step_of_length_le hge]
          omega
      rw [Function.iterate_succ_apply, ← found_step]
      exact ih (s.step isStart d lines) hnext

end CoverLoop

end Loop

end ReactLint
