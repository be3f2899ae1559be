import ReactLint.Proofs.Comment.Automaton

/-!
# Where a block comment ends

A block comment that is open at the end of its line goes on over the lines below.  Nothing is
recorded on them, and the first one that has the end mark closes it: what stands below is read as if
it stood in a file of its own.

There is one exception.  A directive is passed over before the state is looked at, so the end mark
on such a line closes nothing.  The lines below it are then read inside the comment, and what would
be found on them is lost unless there is nothing to find (`resumes_iff`).
-/

namespace ReactLint

open Text

namespace Comment

/-- A block comment: it is opened below lines that end in code, and no line inside has the end
mark. -/
structure OpensBlock (above : List Text) (opening : Text) (inside : List Text) : Prop where
  outside : stateAfter .code above = .code
  recorded : step .code opening = (.block, some (.prose .block))
  unended : ∀ l ∈ inside, mentions "*/" l = false

/-- The state below a line of a block comment that has the end mark. -/
def stateBelow (closing : Text) : State := if isDirective closing then .block else .code

lemma step_block_of_unended {l : Text} (h : mentions "*/" l = false) :
    step .block l = (.block, none) := by
  simp [step, h]

lemma step_block_of_end {l : Text} (h : mentions "*/" l = true) :
    step .block l = (stateBelow l, none) := by
  simp only [step, h, stateBelow]
  split_ifs <;> rfl

/-- Inside a block comment the state stays, and nothing is recorded. -/
lemma scanFrom_block_of_unended {ls : List Text} (h : ∀ l ∈ ls, mentions "*/" l = false) (n : Nat)
    (rest : List Text) :
    scanFrom .block n (ls ++ rest) = scanFrom .block (n + ls.length) rest := by
  induction ls generalizing n with
  | nil => rfl
  | cons l ls ih =>
      obtain ⟨hl, hls⟩ := List.forall_mem_cons.mp h
      rw [List.cons_append, scanFrom, step_block_of_unended hl, List.length_cons,
        Nat.add_comm ls.length, ← Nat.add_assoc]
      exact ih hls (n + 1)

section Block

variable {above inside : List Text} {opening closing : Text}

/-- **Reading a block comment**: what stands above, the comment on its first line, and what stands
below, read in the state that the closing line leaves. -/
lemma scan_block (h : OpensBlock above opening inside) (hend : mentions "*/" closing = true)
    (below : List Text) :
    scan (above ++ opening :: (inside ++ closing :: below)) =
      scan above ++ ⟨above.length + 1, .prose .block⟩ ::
        (scanFrom (stateBelow closing) 1 below).map
          (Located.lower (above.length + inside.length + 2)) := by
  have hline :
      1 + above.length + 1 + inside.length + 1 = 1 + (above.length + inside.length + 2) := by
    omega
  have hbelow : scanFrom .block (1 + above.length + 1) (inside ++ closing :: below)
      = (scanFrom (stateBelow closing) 1 below).map
          (Located.lower (above.length + inside.length + 2)) := by
    rw [scanFrom_block_of_unended h.unended, scanFrom, step_block_of_end hend, ← scanFrom_add,
      hline]
    rfl
  rw [scan, scanFrom_append, h.outside, scanFrom, h.recorded]
  dsimp only [Option.toList_some, List.map_cons, List.map_nil]
  rw [hbelow, Nat.add_comm 1 above.length]
  rfl

/-- Below a block comment reading starts afresh, unless its closing line is a directive and the
lines below read differently inside the comment. -/
lemma resumes_iff (h : OpensBlock above opening inside) (hend : mentions "*/" closing = true)
    (below : List Text) :
    scan (above ++ opening :: (inside ++ closing :: below)) =
        scan above ++ ⟨above.length + 1, .prose .block⟩ ::
          (scan below).map (Located.lower (above.length + inside.length + 2)) ↔
      isDirective closing = false ∨ scanFrom .block 1 below = scan below := by
  rw [scan_block h hend, List.append_cancel_left_eq, List.cons.injEq,
    (List.map_injective_iff.mpr (lower_injective _)).eq_iff, stateBelow, scan]
  cases isDirective closing <;> simp

lemma listedLines_eq (e : Heading) (ls : List Text) :
    listedLines e ls = ((scan ls).filter fun f => f.item.heading = e).map Located.line := rfl

/-- The lines listed under a heading, read off what is found. -/
lemma listedLines_of_scan {ls a b : List Text} {n k : Nat}
    (h : scan ls = scan a ++ ⟨n, .prose .block⟩ :: (scan b).map (Located.lower k)) (e : Heading) :
    listedLines e ls =
      listedLines e a ++ (if e = .comment then [n] else []) ++ (listedLines e b).map (· + k) := by
  rw [listedLines_eq, listedLines_eq, listedLines_eq, h, List.filter_append, List.filter_cons,
    filter_map_lower _ (fun f => by rw [item_lower]), List.map_append, List.append_assoc]
  cases e <;> simp [Kind.heading, Function.comp_def]

/-- **A block comment ends at its first end mark.**  When the line with the mark is no directive,
what is found in the file is what is found above the comment, the comment itself on its first line,
and what is found below, moved down; and so are the lines that the three diagnoses list.  When it is
a directive, the lines below are read inside the comment: they are found as they should be only if
reading them there makes no difference. -/
theorem block_comment_ends_at_first_mark (h : OpensBlock above opening inside)
    (hend : mentions "*/" closing = true) (below : List Text) :
    let lines := above ++ opening :: (inside ++ closing :: below)
    let first := above.length + 1
    let k := above.length + inside.length + 2
    let resumed := scan above ++ ⟨first, .prose .block⟩ :: (scan below).map (Located.lower k)
    (isDirective closing = false → scan lines = resumed ∧
      ∀ s : Source, s.lines = lines → Rule.diagnoseComments s =
        [.comments
            (listedLines .comment above ++ first :: (listedLines .comment below).map (· + k)),
          .disabledCode
            (listedLines .disabledCode above ++ (listedLines .disabledCode below).map (· + k)),
          .reminders (listedLines .reminder above ++ (listedLines .reminder below).map (· + k))]) ∧
    (isDirective closing = true → scan lines =
      scan above ++ ⟨first, .prose .block⟩ :: (scanFrom .block 1 below).map (Located.lower k)) ∧
    (scan lines = resumed ↔
      isDirective closing = false ∨ scanFrom .block 1 below = scan below) := by
  intro lines first k resumed
  have hresumes := resumes_iff h hend below
  refine ⟨fun hclosing => ?_, fun hclosing => ?_, hresumes⟩
  · have hscan : scan lines = resumed := hresumes.mpr (Or.inl hclosing)
    refine ⟨hscan, fun s hs => ?_⟩
    have hlisted := listedLines_of_scan hscan
    rw [diagnoseComments_eq, hs, hlisted .comment, hlisted .disabledCode, hlisted .reminder]
    simp
  · have hscan := scan_block h hend below
    rwa [stateBelow, if_pos hclosing] at hscan

end Block

/-- A comment over three lines with a remark below it: both are found. -/
theorem block_comment_ends_at_first_mark_remark :
    scan ["/*".toList, "  old settings".toList, " */".toList, "// kept".toList]
      = [⟨1, .prose .block⟩, ⟨4, .prose .line⟩] := by
  have hblock : OpensBlock [] "/*".toList ["  old settings".toList] :=
    ⟨rfl, by decide, by decide⟩
  have hbelow : scan ["// kept".toList] = [⟨1, .prose .line⟩] := by decide
  have hend : mentions "*/" " */".toList = true := by decide
  obtain ⟨hresumed, -⟩ := block_comment_ends_at_first_mark hblock hend ["// kept".toList]
  have hscan := (hresumed (by decide)).1
  rw [hbelow] at hscan
  exact hscan

/-- A directive with the end mark closes nothing: the remark below it is lost. -/
theorem block_comment_open_below_directive :
    let inside := ["  old settings".toList]
    let closing := "/* eslint-disable no-console */".toList
    let below := ["// lost remark".toList]
    OpensBlock [] "/*".toList inside ∧ mentions "*/" closing = true ∧
      scan ("/*".toList :: (inside ++ closing :: below)) = [⟨1, .prose .block⟩] ∧
      (⟨1, .prose .line⟩ : Located Kind) ∈ scan below ∧
      scan ("/*".toList :: (inside ++ closing :: below)) ≠
        scan [] ++ ⟨1, .prose .block⟩ :: (scan below).map (Located.lower 3) := by
  refine ⟨⟨rfl, by decide, by decide⟩, by decide, by decide, by decide, by decide⟩

end Comment

end ReactLint
