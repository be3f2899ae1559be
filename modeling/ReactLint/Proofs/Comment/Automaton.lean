import Mathlib.Data.List.Nodup
import ReactLint.Proofs.Finding.Shift

/-!
# The comment automaton

Comments are found by an automaton that reads one line at a time.

**What a step records.**  What is found on a line is what one step records there, in the state that
the lines above end in (`mem_scanFrom`).  So a line is recorded at most once, and only when it
starts in code.

**A loop that jumps.**  The other way to read comments is a loop with a flag for plain blocks, which
reads a documentation comment to its end at once (`readFrom`).  Both find the same
(`readFrom_eq_scanFrom`): inside documentation the automaton records nothing until the end mark, so
it comes out of it where the loop lands (`scanFrom_documentation`).
-/

namespace ReactLint

open Text

namespace Comment

/-! ## Reading with a flag -/

/-- How many of the lines stand before the first one with the end mark of a comment. -/
def linesUntilEnd (ls : List Text) : Nat := (ls.takeWhile fun l => !mentions "*/" l).length

/-- The comments recorded on the lines, numbered from `n`.  The flag says whether the lines start
inside a plain block; a documentation comment is passed over as a whole. -/
def readFrom (inBlock : Bool) (n : Nat) : List Text → List (Located Kind)
  | [] => []
  | l :: ls =>
    if isDirective l then readFrom inBlock (n + 1) ls
    else if inBlock then readFrom (!mentions "*/" (trim l)) (n + 1) ls
    else if starts "/**" (trim l) then
      let skipped := linesUntilEnd (l :: ls)
      readFrom false (n + skipped + 1) (ls.drop skipped)
    else if mentions "/*" (trim l) && !mentions "/**" (trim l) then
      ⟨n, .prose .block⟩ ::
        readFrom (!(afterBlockOpening? (trim l)).any (mentions "*/")) (n + 1) ls
    else if starts "//" (trim l) then
      ⟨n, if DisabledCode.isDisabledCode l then .disabledCode
          else if isReminder (trim l) then .reminder
          else .prose .line⟩ :: readFrom false (n + 1) ls
    else match inlineStart? l with
      | some pos =>
        ⟨n, if isReminder (l.drop pos) then .reminder else .prose .inline⟩ ::
          readFrom false (n + 1) ls
      | none => readFrom false (n + 1) ls
  termination_by ls => ls.length

/-- The state that the flag stands for. -/
def blockState (inBlock : Bool) : State := if inBlock then .block else .code

lemma isSome_afterBlockOpening? (t : Text) : (afterBlockOpening? t).isSome = mentions "/*" t := by
  rw [Bool.eq_iff_iff, afterBlockOpening?, search?, List.findSome?_isSome_iff, mentions, occurs_iff]
  constructor
  · rintro ⟨p, hp, hskip⟩
    obtain ⟨a, rfl, -⟩ := mem_places.mp hp
    obtain ⟨r, hr⟩ := Option.isSome_iff_exists.mp hskip
    exact ⟨a, r, by rw [after?_eq_some_iff.mp hr, List.append_assoc]⟩
  · rintro ⟨a, r, rfl⟩
    refine ⟨⟨a.getLast?, "/*".toList ++ r⟩, mem_places.mpr ⟨a, List.append_assoc .., rfl⟩, ?_⟩
    exact Option.isSome_iff_exists.mpr ⟨r, after?_append _ r⟩

/-- A line that opens no comment of several lines. -/
lemma readCode_of_no_block {l : Text} (hdoc : ¬ starts "/**" (trim l) = true)
    (hplain : ¬ (mentions "/*" (trim l) && !mentions "/**" (trim l)) = true) :
    readCode l = (.code,
      if starts "//" (trim l) then
        some (if DisabledCode.isDisabledCode l then .disabledCode
          else if isReminder (trim l) then .reminder
          else .prose .line)
      else (inlineStart? l).map fun pos =>
        if isReminder (l.drop pos) then .reminder else .prose .inline) := by
  have hnone : (if mentions "/**" (trim l) then none else afterBlockOpening? (trim l)) = none := by
    split_ifs with hinside
    · rfl
    · rw [← Option.not_isSome_iff_eq_none, isSome_afterBlockOpening?]
      intro hopen
      exact hplain (by simp [hopen, hinside])
  rw [readCode, if_neg hdoc, hnone]
  dsimp only
  split_ifs
  · rfl
  · rfl
  · rfl
  · cases inlineStart? l with
    | none => rfl
    | some pos =>
        dsimp only [Option.map_some]
        split_ifs <;> rfl

/-- **Through documentation at once.**  The automaton is back in code below the first line that has
the end mark. -/
lemma scanFrom_documentation (n : Nat) (ls : List Text) :
    scanFrom .documentation n ls
      = scanFrom .code (n + linesUntilEnd ls + 1) (ls.drop (linesUntilEnd ls + 1)) := by
  induction ls generalizing n with
  | nil => rfl
  | cons l ls ih =>
      cases hend : mentions "*/" l with
      | true => simp [scanFrom, step, linesUntilEnd, hend]
      | false =>
          have hlines : linesUntilEnd (l :: ls) = linesUntilEnd ls + 1 := by
            simp [linesUntilEnd, hend]
          have hline : n + (linesUntilEnd ls + 1) + 1 = n + 1 + linesUntilEnd ls + 1 := by omega
          rw [hlines, List.drop_succ_cons, hline, ← ih (n + 1)]
          simp [scanFrom, step, hend]

/-- Both ways of reading find the same comments. -/
lemma readFrom_eq_scanFrom (inBlock : Bool) (n : Nat) (ls : List Text) :
    readFrom inBlock n ls = scanFrom (blockState inBlock) n ls := by
  fun_induction readFrom inBlock n ls with
  | case1 => rfl
  | case2 inBlock n l ls hdirective ih =>
      -- a directive leaves the flag and the state as they are
      rw [ih]
      cases inBlock <;> simp [scanFrom, step, blockState, hdirective]
  | case3 n l ls hdirective ih =>
      rw [ih, mentions_trim (by decide)]
      cases hend : mentions "*/" l <;> simp [scanFrom, step, blockState, hdirective, hend]
  | case4 inBlock n l ls hdirective hblock hdoc skipped ih =>
      obtain rfl : inBlock = false := by simpa using hblock
      have hopen : scanFrom .code n (l :: ls) = scanFrom .documentation n (l :: ls) := by
        simp [scanFrom, step, readCode, hdirective, hdoc]
      rw [ih, blockState, if_neg Bool.false_ne_true, hopen, scanFrom_documentation,
        List.drop_succ_cons]
  | case5 inBlock n l ls hdirective hblock hdoc hplain ih =>
      obtain rfl : inBlock = false := by simpa using hblock
      rw [Bool.and_eq_true, Bool.not_eq_true'] at hplain
      obtain ⟨rest, hrest⟩ : ∃ rest, afterBlockOpening? (trim l) = some rest := by
        rw [← Option.isSome_iff_exists, isSome_afterBlockOpening?, hplain.1]
      rw [ih, hrest]
      cases hend : mentions "*/" rest <;>
        simp [scanFrom, step, readCode, blockState, hdirective, hdoc, hplain.2, hrest, hend]
  | case6 inBlock n l ls hdirective hblock hdoc hplain hline ih =>
      obtain rfl : inBlock = false := by simpa using hblock
      rw [ih]
      simp [scanFrom, step, blockState, hdirective, readCode_of_no_block hdoc hplain, hline]
  | case7 inBlock n l ls hdirective hblock hdoc hplain hline pos hinline ih =>
      obtain rfl : inBlock = false := by simpa using hblock
      rw [ih]
      simp [scanFrom, step, blockState, hdirective, readCode_of_no_block hdoc hplain, hline,
        hinline]
  | case8 inBlock n l ls hdirective hblock hdoc hplain hline hinline ih =>
      obtain rfl : inBlock = false := by simpa using hblock
      rw [ih]
      simp [scanFrom, step, blockState, hdirective, readCode_of_no_block hdoc hplain, hline,
        hinline]

/-! ## Where comments are recorded -/

lemma step_records_in_code {state : State} {l : Text} {kind : Kind}
    (h : (step state l).2 = some kind) : state = .code := by
  cases state with
  | code => rfl
  | block =>
      rw [step] at h
      split_ifs at h
  | documentation => cases h

/-- **One line, one step.**  What is found is what the step on its line records, in the state that
the lines above end in. -/
lemma mem_scanFrom {state : State} {n : Nat} {ls : List Text} {f : Located Kind} :
    f ∈ scanFrom state n ls ↔ ∃ above l below, ls = above ++ l :: below ∧
      f.line = n + above.length ∧ (step (stateAfter state above) l).2 = some f.item := by
  induction ls generalizing state n with
  | nil =>
      constructor
      · intro h
        exact absurd h List.not_mem_nil
      · rintro ⟨above, l, below, hls, -⟩
        exact absurd hls.symm (by simp)
  | cons l ls ih =>
      rw [scanFrom, List.mem_append, ih]
      constructor
      · rintro (hhere | ⟨above, l', below, rfl, hline, hrecord⟩)
        · obtain ⟨kind, hkind, rfl⟩ := List.mem_map.mp hhere
          exact ⟨[], l, ls, rfl, rfl, Option.mem_toList.mp hkind⟩
        · refine ⟨l :: above, l', below, rfl, ?_, hrecord⟩
          rw [hline, List.length_cons]
          omega
      · rintro ⟨above, l', below, hls, hline, hrecord⟩
        cases above with
        | nil =>
            obtain ⟨rfl, rfl⟩ := List.cons.inj hls
            obtain ⟨line, kind⟩ := f
            obtain rfl : line = n := hline
            exact Or.inl (List.mem_map.mpr ⟨kind, Option.mem_toList.mpr hrecord, rfl⟩)
        | cons l'' above =>
            obtain ⟨rfl, rfl⟩ := List.cons.inj hls
            refine Or.inr ⟨above, l', below, rfl, ?_, hrecord⟩
            rw [hline, List.length_cons]
            omega

/-- A line is recorded at most once. -/
lemma scanFrom_strict (state : State) (n : Nat) (ls : List Text) :
    ((scanFrom state n ls).map Located.line).Pairwise (· < ·) := by
  induction ls generalizing state n with
  | nil => exact List.Pairwise.nil
  | cons l ls ih =>
      rw [scanFrom, List.map_append]
      refine InOrder.strict_step ?_ ?_ (scanFrom_inOrder _ (n + 1) ls) (ih _ _)
      · simp +contextual
      · cases (step state l).2 <;> simp

lemma scanFrom_add (state : State) (n k : Nat) (ls : List Text) :
    scanFrom state (n + k) ls = (scanFrom state n ls).map (Located.lower k) := by
  induction k with
  | zero => exact (List.map_id _).symm
  | succ k ih =>
      rw [← Nat.add_assoc, scanFrom_succ, ih, List.map_map]
      refine List.map_congr_left fun f _ => ?_
      rw [Function.comp_apply, lower_lower]

/-! ## The three lists -/

/-- What a comment is listed under. -/
inductive Heading where
  | comment
  | disabledCode
  | reminder
  deriving DecidableEq

def Kind.heading : Kind → Heading
  | .prose _ => .comment
  | .disabledCode => .disabledCode
  | .reminder => .reminder

/-- The comments listed under a heading, when the first line starts in the state. -/
def listed (h : Heading) (state : State) (ls : List Text) : List (Located Kind) :=
  (scanFrom state 1 ls).filter fun f => f.item.heading = h

/-- The lines listed under a heading. -/
def listedLines (h : Heading) (ls : List Text) : List Nat := (listed h .code ls).map Located.line

lemma diagnoseComments_eq (s : Source) :
    Rule.diagnoseComments s = [.comments (listedLines .comment s.lines),
      .disabledCode (listedLines .disabledCode s.lines),
      .reminders (listedLines .reminder s.lines)] := by
  have hkeep {keep : Kind → Bool} {h : Heading}
      (hk : ∀ kind, keep kind = decide (kind.heading = h)) :
      linesOf keep (scan s.lines) = listedLines h s.lines := by
    simp only [linesOf, listedLines, listed, scan, hk]
  rw [Rule.diagnoseComments, hkeep (h := .comment) (by rintro (_ | _ | _) <;> rfl),
    hkeep (h := .disabledCode) (by rintro (_ | _ | _) <;> rfl),
    hkeep (h := .reminder) (by rintro (_ | _ | _) <;> rfl)]

lemma listedLines_strict (h : Heading) (ls : List Text) : (listedLines h ls).Pairwise (· < ·) :=
  (scanFrom_strict .code 1 ls).sublist (List.filter_sublist.map Located.line)

lemma mem_listedLines {h : Heading} {n : Nat} {ls : List Text} :
    n ∈ listedLines h ls ↔ ∃ f ∈ scan ls, f.item.heading = h ∧ f.line = n := by
  simp [listedLines, listed, scan, and_assoc]

/-- A line is listed under one heading at most. -/
lemma heading_unique {h h' : Heading} {n : Nat} {ls : List Text} (hn : n ∈ listedLines h ls)
    (hn' : n ∈ listedLines h' ls) : h = h' := by
  obtain ⟨f, hf, rfl, hline⟩ := mem_listedLines.mp hn
  obtain ⟨f', hf', rfl, hline'⟩ := mem_listedLines.mp hn'
  have hnodup := (scanFrom_strict .code 1 ls).imp Nat.ne_of_lt
  rw [List.inj_on_of_nodup_map hnodup hf hf' (hline.trans hline'.symm)]

/-- A line that is listed starts in code. -/
lemma stateAfter_of_mem_listedLines {h : Heading} {n : Nat} {ls : List Text}
    (hn : n ∈ listedLines h ls) :
    ∃ above l below, ls = above ++ l :: below ∧ n = above.length + 1 ∧
      stateAfter .code above = .code := by
  obtain ⟨f, hf, -, rfl⟩ := mem_listedLines.mp hn
  obtain ⟨above, l, below, hls, hline, hrecord⟩ := mem_scanFrom.mp hf
  exact ⟨above, l, below, hls, hline.trans (Nat.add_comm 1 _), step_records_in_code hrecord⟩

/-- **Reading in two parts.** -/
lemma listed_append (h : Heading) (state : State) (a b : List Text) :
    listed h state (a ++ b)
      = listed h state a ++ (listed h (stateAfter state a) b).map (Located.lower a.length) := by
  rw [listed, scanFrom_append, scanFrom_add, List.filter_append,
    filter_map_lower _ (fun f => by rw [item_lower])]
  rfl

/-- **Comments are read by an automaton with three states.**  It finds what the loop that jumps over
documentation finds.  A line is listed once at most, under one heading, and only if it starts in
code; each list goes down the file.  Below any lines, reading goes on from the state that they end
in, and afresh when that is code. -/
theorem comments_listed_by_state :
    (∀ s : Source, Rule.diagnoseComments s = [.comments (listedLines .comment s.lines),
      .disabledCode (listedLines .disabledCode s.lines),
      .reminders (listedLines .reminder s.lines)]) ∧
    ∀ lines : List Text,
      scan lines = readFrom false 1 lines ∧
      (∀ h, (listedLines h lines).Pairwise (· < ·)) ∧
      (∀ h h' n, n ∈ listedLines h lines → n ∈ listedLines h' lines → h = h') ∧
      (∀ h, ∀ n ∈ listedLines h lines, ∃ above l below, lines = above ++ l :: below ∧
        n = above.length + 1 ∧ stateAfter .code above = .code) ∧
      ∀ h below,
        listed h .code (lines ++ below) = listed h .code lines ++
          (listed h (stateAfter .code lines) below).map (Located.lower lines.length) ∧
        (stateAfter .code lines = .code →
          listed h .code (lines ++ below)
            = listed h .code lines ++ (listed h .code below).map (Located.lower lines.length)) := by
  refine ⟨diagnoseComments_eq, fun lines => ⟨(readFrom_eq_scanFrom false 1 lines).symm,
    fun h => listedLines_strict h lines, fun h h' n => heading_unique,
    fun h n => stateAfter_of_mem_listedLines,
    fun h below => ⟨listed_append h .code lines below, ?_⟩⟩⟩
  intro hcode
  rw [listed_append, hcode]

end Comment

end ReactLint
