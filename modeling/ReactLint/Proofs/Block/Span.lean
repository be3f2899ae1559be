import Mathlib.Data.Set.Image
import ReactLint.Function
import ReactLint.Proofs.Block.Cover

/-!
# Spans of blocks

The span of a block goes from its first line to the line that closes it.  Two things are said here
about spans, and both come from the depth that a block has at the end of each line below its first
(`blockDepth`).

**Locality.**  The depth below a line depends on the lines down to there only
(`blockDepth_append`), so lines in front of a block move its span and change nothing else, and lines
behind it matter exactly when it is still open at their beginning.

**Nesting.**  A block that starts inside another runs with a counter of its own.  Where its first
line closes only what it opens, the outer counter is ahead of the inner one by the depth that it had
above that line, and stays ahead by as much (`blockDepth_eq_add`).  The outer block can therefore
not be closed while the inner one is open, and spans of functions are nested or disjoint.
-/

namespace ReactLint

open Text

/-! ## The depth of a block -/

section Depth

variable {d : Delimiter} {lines : List Text} {i j : Nat}

/-- The depth that the block that starts on line `i` has at the end of line `j`. -/
def blockDepth (d : Delimiter) (lines : List Text) (i j : Nat) : Int :=
  lineDepth d lines i (openDepth d (lines.getD i [])) j

/-- Whether the block that starts on line `i` is closed within the lines. -/
def ClosesWithin (d : Delimiter) (lines : List Text) (i : Nat) : Prop :=
  openDepth d (lines.getD i []) = 0 ∨ blockDepth d lines i (blockEnd d lines i) ≤ 0

instance (d : Delimiter) (lines : List Text) (i : Nat) : Decidable (ClosesWithin d lines i) :=
  inferInstanceAs (Decidable (_ ∨ _))

lemma blockDepth_eq_sum (d : Delimiter) (lines : List Text) (i j : Nat) :
    blockDepth d lines i j = openDepth d (lines.getD i []) +
      (((lines.drop (i + 1)).take (j - i)).map (balance d)).sum := by
  rw [blockDepth, lineDepth, foldl_depthAfter]

@[simp] lemma blockDepth_self (d : Delimiter) (lines : List Text) (i : Nat) :
    blockDepth d lines i i = openDepth d (lines.getD i []) := by
  simp [blockDepth_eq_sum]

lemma nearestLine_of_lt (hi : i < lines.length) : nearestLine lines i = i := by
  rw [nearestLine]
  omega

lemma blockEnd_of_openDepth_eq_zero (hi : i < lines.length)
    (hzero : openDepth d (lines.getD i []) = 0) : blockEnd d lines i = i := by
  have hne : lines ≠ [] := List.ne_nil_of_length_pos (by omega)
  rw [blockEnd_eq hne, nearestLine_of_lt hi, if_pos hzero, Nat.add_zero]

lemma blockEnd_le_last (hi : i < lines.length) : blockEnd d lines i ≤ lines.length - 1 :=
  (blockEnd_bounds (List.ne_nil_of_length_pos (by omega)) d i).2

/-- A block that its first line leaves open ends on the first line below whose end it is closed, or
on the last line. -/
lemma endsBlock_blockDepth (hi : i < lines.length) (hopen : 0 < openDepth d (lines.getD i [])) :
    EndsBlock (blockDepth d lines i) i (lines.length - 1) (blockEnd d lines i) := by
  have hne : lines ≠ [] := List.ne_nil_of_length_pos (by omega)
  have h := blockEnd_endsBlock hne d i
  rw [nearestLine_of_lt hi] at h
  exact h hopen

lemma openDepth_pos (hi : i < lines.length) (hmore : i < blockEnd d lines i) :
    0 < openDepth d (lines.getD i []) := by
  rw [Nat.pos_iff_ne_zero]
  intro hzero
  rw [blockEnd_of_openDepth_eq_zero hi hzero] at hmore
  exact Nat.lt_irrefl i hmore

/-- Above its last line a block is open. -/
lemma blockDepth_pos (hi : i < lines.length) (hij : i ≤ j) (hj : j < blockEnd d lines i) :
    0 < blockDepth d lines i j := by
  have hopen := openDepth_pos hi (Nat.lt_of_le_of_lt hij hj)
  rcases Nat.eq_or_lt_of_le hij with rfl | hlt
  · rw [blockDepth_self]
    exact_mod_cast hopen
  · exact (endsBlock_blockDepth hi hopen).open_before j hlt hj

end Depth

/-! ## Locality -/

section Locality

variable {d : Delimiter} {lines : List Text} {i j : Nat}

/-- Lines behind line `j` do not matter for the depth at its end. -/
lemma blockDepth_append (hi : i < lines.length) (hj : j < lines.length) (rest : List Text) :
    blockDepth d (lines ++ rest) i j = blockDepth d lines i j := by
  rw [blockDepth, blockDepth, lineDepth, lineDepth, List.getD_append _ _ _ _ hi,
    List.drop_append_of_le_length hi, List.take_append_of_le_length]
  rw [List.length_drop]
  omega

lemma blockEnd_append_left (d : Delimiter) (front : List Text) (hi : i < lines.length) :
    blockEnd d (front ++ lines) (front.length + i : Nat) = front.length + blockEnd d lines i := by
  have hlt : front.length + i < (front ++ lines).length := by
    rw [List.length_append]
    omega
  rw [blockEnd_of_lt hlt, blockEnd_of_lt hi, ← List.drop_drop, List.drop_left, Nat.add_assoc]

/-- The end of an open block when more lines follow: the first line that closes it, among these or
those. -/
lemma endsBlock_append (hi : i < lines.length) (hopen : 0 < openDepth d (lines.getD i []))
    (rest : List Text) :
    EndsBlock (blockDepth d (lines ++ rest) i) i (lines.length + rest.length - 1)
      (blockEnd d (lines ++ rest) i) := by
  rw [← List.length_append]
  refine endsBlock_blockDepth ?_ ?_
  · rw [List.length_append]
    omega
  · rwa [List.getD_append _ _ _ _ hi]

/-- A block that is closed within the lines keeps its last line, whatever follows. -/
lemma blockEnd_append_of_closes (hi : i < lines.length) (hcloses : ClosesWithin d lines i)
    (rest : List Text) : blockEnd d (lines ++ rest) i = blockEnd d lines i := by
  rcases Nat.eq_zero_or_pos (openDepth d (lines.getD i [])) with hzero | hopen
  · have hi' : i < (lines ++ rest).length := by
      rw [List.length_append]
      omega
    have hzero' : openDepth d ((lines ++ rest).getD i []) = 0 := by
      rw [List.getD_append _ _ _ _ hi, hzero]
    rw [blockEnd_of_openDepth_eq_zero hi hzero, blockEnd_of_openDepth_eq_zero hi' hzero']
  · have hlast := blockEnd_le_last (d := d) hi
    have hshort := endsBlock_blockDepth hi hopen
    have hlong := endsBlock_append hi hopen rest
    have hclosed := hcloses.resolve_left (Nat.ne_of_gt hopen)
    have hstart : i < blockEnd d lines i := by
      refine Nat.lt_of_le_of_ne hshort.start_le fun heq => ?_
      rw [← heq, blockDepth_self] at hclosed
      omega
    have hle : blockEnd d (lines ++ rest) i ≤ blockEnd d lines i := by
      refine hlong.end_le hstart ?_
      rwa [blockDepth_append hi (by omega)]
    have hge : blockEnd d lines i ≤ blockEnd d (lines ++ rest) i := by
      refine hlong.le_end (by omega) fun j hij hj => ?_
      rw [blockDepth_append hi (by omega)]
      exact hshort.open_before j hij hj
    exact Nat.le_antisymm hle hge

/-- A block that is still open behind the lines goes on into those that follow. -/
lemma length_le_blockEnd_append (hi : i < lines.length) (hcloses : ¬ ClosesWithin d lines i)
    {rest : List Text} (hrest : rest ≠ []) : lines.length ≤ blockEnd d (lines ++ rest) i := by
  rw [ClosesWithin, not_or, Int.not_le] at hcloses
  obtain ⟨hne, hpos⟩ := hcloses
  have hopen : 0 < openDepth d (lines.getD i []) := Nat.pos_of_ne_zero hne
  have hmore : 0 < rest.length := List.length_pos_iff.mpr hrest
  have hshort := endsBlock_blockDepth hi hopen
  have hend : blockEnd d lines i = lines.length - 1 := by
    rcases hshort.closed_or_last with ⟨-, hclosed⟩ | ⟨hlast, -⟩
    · omega
    · exact hlast
  refine (endsBlock_append hi hopen rest).le_end (by omega) fun j hij hj => ?_
  rw [blockDepth_append hi hj]
  rcases Nat.lt_or_ge j (blockEnd d lines i) with hlt | hge
  · exact hshort.open_before j hij hlt
  · rwa [show j = blockEnd d lines i by omega]

end Locality

/-- **A block end depends on the block only.**  Lines in front move it by their number.  Lines
behind do not move it when the block is closed within the lines, that is when its first line opens
nothing or it has depth zero or less at the end of its last line.  When it is not, it ends among the
lines behind, if there are any. -/
theorem blockEnd_local (d : Delimiter) (front lines rest : List Text) {s : Nat}
    (hs : s < lines.length) :
    blockEnd d (front ++ lines) (front.length + s : Nat) = front.length + blockEnd d lines s ∧
      (ClosesWithin d lines s → blockEnd d (lines ++ rest) s = blockEnd d lines s) ∧
      (¬ ClosesWithin d lines s → rest ≠ [] → lines.length ≤ blockEnd d (lines ++ rest) s) :=
  ⟨blockEnd_append_left d front hs, fun h => blockEnd_append_of_closes hs h rest,
    fun h => length_le_blockEnd_append hs h⟩

/-- A block that its second line closes keeps that line as its last, with a line in front and a
brace behind; an `else` that opens it again leaves it to the lines that follow. -/
theorem blockEnd_local_else :
    let closed := ["if (a) ".toList ++ ['{'], ['}']]
    let reopened := ["if (a) ".toList ++ ['{'], '}' :: " else ".toList ++ ['{']]
    blockEnd .brace ("x()".toList :: closed) 1 = 1 + blockEnd .brace closed 0 ∧
      ClosesWithin .brace closed 0 ∧
      blockEnd .brace (closed ++ [['}']]) 0 = blockEnd .brace closed 0 ∧
      ¬ ClosesWithin .brace reopened 0 ∧
      2 ≤ blockEnd .brace (reopened ++ [['}']]) 0 := by
  intro closed reopened
  have hcloses : ClosesWithin .brace closed 0 := by decide
  have hreopened : ¬ ClosesWithin .brace reopened 0 := by decide
  obtain ⟨hfront, hkept, -⟩ :=
    blockEnd_local .brace ["x()".toList] closed [['}']] (s := 0) (by decide)
  obtain ⟨-, -, hgoes⟩ :=
    blockEnd_local .brace [] reopened [['}']] (s := 0) (by decide)
  exact ⟨hfront, hcloses, hkept hcloses, hreopened, hgoes hreopened (by decide)⟩

/-! ## Nesting -/

section Nesting

variable {d : Delimiter} {lines : List Text} {i j k : Nat}

/-- **The outer counter stays ahead.**  From a line that closes only what it opens, the depth of an
outer block is that of the block which starts there and the depth that it had above. -/
lemma blockDepth_eq_add (hij : i < j) (hj : j < lines.length) (hjk : j ≤ k)
    (hown : ClosesOwn d (lines.getD j [])) :
    blockDepth d lines i k = blockDepth d lines i (j - 1) + blockDepth d lines j k := by
  have hsplit : (lines.drop (i + 1)).take (k - i)
      = (lines.drop (i + 1)).take (j - 1 - i) ++
        lines.getD j [] :: (lines.drop (j + 1)).take (k - j) := by
    have hline : (lines.drop (i + 1)).drop (j - 1 - i)
        = lines.getD j [] :: lines.drop (j + 1) := by
      rw [List.drop_drop, show i + 1 + (j - 1 - i) = j by omega, List.drop_eq_getElem_cons hj,
        List.getD_eq_getElem _ _ hj]
    have hcount : k - i = (j - 1 - i) + (k - j + 1) := by omega
    rw [hcount, List.take_add, hline, List.take_succ_cons]
  rw [blockDepth_eq_sum, blockDepth_eq_sum, blockDepth_eq_sum, hsplit, List.map_append,
    List.sum_append, List.map_cons, List.sum_cons, openDepth_eq_balance hown]
  omega

/-- **A block that starts inside another ends inside it**, if its first line closes only what it
opens. -/
lemma blockEnd_le_blockEnd (hij : i < j) (hj : j < lines.length) (hinside : j ≤ blockEnd d lines i)
    (hown : ClosesOwn d (lines.getD j [])) : blockEnd d lines j ≤ blockEnd d lines i := by
  have hi : i < lines.length := by omega
  rcases Nat.eq_zero_or_pos (openDepth d (lines.getD j [])) with hzero | hopen
  · rwa [blockEnd_of_openDepth_eq_zero hj hzero]
  have habove : 0 < blockDepth d lines i (j - 1) := blockDepth_pos hi (by omega) (by omega)
  have houter := endsBlock_blockDepth hi (openDepth_pos hi (Nat.lt_of_lt_of_le hij hinside))
  rcases houter.closed_or_last with ⟨-, hclosed⟩ | ⟨hlast, -⟩
  · -- the outer block is closed, and the inner one was not deeper on that line
    rw [blockDepth_eq_add hij hj hinside hown] at hclosed
    have hinner : blockDepth d lines j (blockEnd d lines i) ≤ 0 := by omega
    refine (endsBlock_blockDepth hj hopen).end_le ?_ hinner
    refine Nat.lt_of_le_of_ne hinside fun heq => ?_
    rw [← heq, blockDepth_self] at hinner
    omega
  · rw [hlast]
    exact blockEnd_le_last hj

/-- Of two blocks the one that starts later lies inside the other or behind it. -/
lemma subset_or_disjoint (hij : i < j) (hj : j < lines.length)
    (hown : ClosesOwn d (lines.getD j [])) :
    Set.Icc (j + 1) (blockEnd d lines j + 1) ⊆ Set.Icc (i + 1) (blockEnd d lines i + 1) ∨
      ∀ n ∈ Set.Icc (i + 1) (blockEnd d lines i + 1),
        n ∉ Set.Icc (j + 1) (blockEnd d lines j + 1) := by
  rcases Nat.lt_or_ge (blockEnd d lines i) j with hbehind | hinside
  · refine Or.inr ?_
    rintro n ⟨-, hle⟩ ⟨hge, -⟩
    omega
  · have hle := blockEnd_le_blockEnd hij hj hinside hown
    refine Or.inl ?_
    rintro n ⟨hge, hn⟩
    exact ⟨by omega, by omega⟩

end Nesting

/-! ## Functions -/

/-- Sets of which any two are nested or disjoint. -/
def Laminar (family : Set (Set Nat)) : Prop :=
  ∀ a ∈ family, ∀ b ∈ family, a ⊆ b ∨ b ⊆ a ∨ ∀ n ∈ a, n ∉ b

/-- A find stands on a line of the file, and was made with the lines below it. -/
lemma mem_locateFrom {α : Type} {look : Text → List Text → List α} {n : Nat} {ls : List Text}
    {f : Located α} :
    f ∈ locateFrom look n ls ↔
      ∃ i, ∃ hi : i < ls.length, f.line = n + i ∧ f.item ∈ look ls[i] (ls.drop (i + 1)) := by
  induction ls generalizing n with
  | nil => simp [locateFrom]
  | cons l ls ih =>
      rw [locateFrom, List.mem_append, ih]
      constructor
      · rintro (h | ⟨i, hi, hline, hitem⟩)
        · obtain ⟨a, ha, rfl⟩ := List.mem_map.mp h
          exact ⟨0, Nat.zero_lt_succ _, rfl, ha⟩
        · refine ⟨i + 1, Nat.succ_lt_succ hi, ?_, hitem⟩
          rw [hline]
          omega
      · rintro ⟨i, hi, hline, hitem⟩
        cases i with
        | zero => exact Or.inl (List.mem_map.mpr ⟨f.item, hitem, by rw [← Nat.add_zero n, ← hline]⟩)
        | succ i => exact Or.inr ⟨i, Nat.lt_of_succ_lt_succ hi, by omega, hitem⟩

namespace FunctionBlock

/-- The numbers of the lines of a function. -/
def span (f : Located FunctionBlock) : Set Nat := Set.Icc f.line (f.line + f.item.length - 1)

/-- A function found in a file has its header on a line of it, and goes down to the end of the block
that starts there. -/
lemma exists_of_mem_collect {lines : List Text} {f : Located FunctionBlock}
    (h : f ∈ collect lines) :
    ∃ i < lines.length, f.line = i + 1 ∧ lines.getD i [] = f.item.header ∧
      span f = Set.Icc (i + 1) (blockEnd .braceOrParen lines i + 1) := by
  obtain ⟨i, hi, hline, hitem⟩ := mem_locateFrom.mp h
  obtain ⟨name, -, hblock⟩ := Option.map_eq_some_iff.mp (Option.mem_toList.mp hitem)
  have hdrop : lines.drop i = lines[i] :: lines.drop (i + 1) := List.drop_eq_getElem_cons hi
  have hlength : f.item.length = extent .braceOrParen (lines.drop i) + 1 := by
    have hlt := extent_lt .braceOrParen (List.ne_nil_of_mem (hdrop ▸ List.mem_cons_self))
    rw [← hblock, length, blockLines, ← hdrop, List.length_take]
    omega
  refine ⟨i, hi, by omega, ?_, ?_⟩
  · rw [List.getD_eq_getElem _ _ hi, ← hblock]
  · rw [span, hline, hlength, blockEnd_of_lt hi]
    congr 1 <;> omega

end FunctionBlock

/-- **Blocks are nested or disjoint.**  A block that starts inside another, on a line that closes
only what it opens, ends inside it.  A function takes the lines from its header to the end of the
block that starts there; so the spans of the functions of a file whose headers close only what they
open are nested or disjoint. -/
theorem blocks_nested_or_disjoint (lines : List Text) :
    (∀ (d : Delimiter) (i j : Nat), i < j → j < lines.length → j ≤ blockEnd d lines i →
      ClosesOwn d (lines.getD j []) → blockEnd d lines j ≤ blockEnd d lines i) ∧
    (∀ f ∈ FunctionBlock.collect lines,
      ∃ i < lines.length, f.line = i + 1 ∧ lines.getD i [] = f.item.header ∧
        FunctionBlock.span f = Set.Icc (i + 1) (blockEnd .braceOrParen lines i + 1)) ∧
    Laminar (FunctionBlock.span ''
      {f | f ∈ FunctionBlock.collect lines ∧ ClosesOwn .braceOrParen f.item.header}) := by
  refine ⟨fun d i j => blockEnd_le_blockEnd, fun f => FunctionBlock.exists_of_mem_collect, ?_⟩
  rintro _ ⟨f, ⟨hf, hfown⟩, rfl⟩ _ ⟨g, ⟨hg, hgown⟩, rfl⟩
  obtain ⟨i, hi, -, hfheader, hfspan⟩ := FunctionBlock.exists_of_mem_collect hf
  obtain ⟨j, hj, -, hgheader, hgspan⟩ := FunctionBlock.exists_of_mem_collect hg
  rw [hfspan, hgspan]
  rcases Nat.lt_trichotomy i j with hlt | rfl | hgt
  · have hown : ClosesOwn .braceOrParen (lines.getD j []) := hgheader ▸ hgown
    exact Or.inr (subset_or_disjoint hlt hj hown)
  · exact Or.inl (Set.Subset.refl _)
  · have hown : ClosesOwn .braceOrParen (lines.getD i []) := hfheader ▸ hfown
    rcases subset_or_disjoint hgt hi hown with hsub | hdisjoint
    · exact Or.inl hsub
    · exact Or.inr (Or.inr fun n hn hn' => hdisjoint n hn' hn)

/-- A handler inside a component: its header lies in the component's block and closes only what it
opens, and it ends above the component's last line. -/
theorem blocks_nested_or_disjoint_handler :
    let lines := ["function Card() ".toList ++ ['{'],
      "  const save = (a) => ".toList ++ ['{'], [' ', ' ', '}'], ['}']]
    1 ≤ blockEnd .braceOrParen lines 0 ∧ ClosesOwn .braceOrParen (lines.getD 1 []) ∧
      blockEnd .braceOrParen lines 1 ≤ blockEnd .braceOrParen lines 0 := by
  intro lines
  have hinside : 1 ≤ blockEnd .braceOrParen lines 0 := by decide
  have hown : ClosesOwn .braceOrParen (lines.getD 1 []) := by decide
  exact ⟨hinside, hown,
    (blocks_nested_or_disjoint lines).1 .braceOrParen 0 1 (by decide) (by decide) hinside hown⟩

/-- A line that closes the block around it and opens one of its own starts a block that goes
further. -/
example :
    let lines := [['{'], ['}', ' ', '}', ' ', '{'], ['}']]
    blockEnd .brace lines 0 = 1 ∧ blockEnd .brace lines 1 = 2 ∧
      ¬ ClosesOwn .brace (lines.getD 1 []) := by
  decide

end ReactLint
