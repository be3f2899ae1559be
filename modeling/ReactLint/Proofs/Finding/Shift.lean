import Mathlib.Data.List.Forall2
import ReactLint.Proofs.Blank.Line
import ReactLint.Proofs.Finding.Category

/-!
# Lines above a file

Empty lines in front of a file move everything in it down and change nothing else.

**Scans.**  Nothing is found on an empty line, and no scan leaves one in another state than it
entered it.  A scan over empty lines and then a file is therefore the scan over the file with its
numbering begun later, and numbering later only moves what is found (`scan_lowerLines`).

**What looks upwards.**  Two scans look outside the lines that are still to come.  The search for a
`catch` walks back over the lines above; empty ones open no brace.  An import names the index of its
last line, by which the text behind it is found; the index moves with the line.

**Diagnoses.**  Every rule but the one on the size of the file makes the same diagnoses, moved down
(`diagnose_lowered`).
-/

namespace ReactLint

open Text

/-- A find `n` lines further down. -/
def Located.lower {α : Type} (n : Nat) (f : Located α) : Located α := ⟨f.line + n, f.item⟩

/-- `n` empty lines and then the lines. -/
def lowerLines (n : Nat) (ls : List Text) : List Text := List.replicate n [] ++ ls

/-- One line more in front is an empty first line. -/
lemma lowerLines_succ (n : Nat) (ls : List Text) : lowerLines (n + 1) ls = [] :: lowerLines n ls :=
  rfl

/-- Lowering moves the line of a find and nothing else: `simp` reads both parts off. -/
@[simp] lemma line_lower {α : Type} (n : Nat) (f : Located α) : (f.lower n).line = f.line + n := rfl

@[simp] lemma item_lower {α : Type} (n : Nat) (f : Located α) : (f.lower n).item = f.item := rfl

/-- Moving down twice adds up, which is what carries the inductions on the number of lines. -/
lemma lower_lower {α : Type} (m n : Nat) (f : Located α) :
    (f.lower m).lower n = f.lower (m + n) := by
  simp [Located.lower, Nat.add_assoc]

/-- Finds that are different stay different. -/
lemma lower_injective {α : Type} (n : Nat) :
    Function.Injective (Located.lower n : Located α → Located α) := by
  rintro ⟨k, a⟩ ⟨m, b⟩ heq
  simpa [Located.lower] using heq

/-- A choice among finds that does not ask for their lines can be made before they move. -/
lemma filter_map_lower {α : Type} {n : Nat} (keep : Located α → Bool)
    (h : ∀ f, keep (f.lower n) = keep f) (found : List (Located α)) :
    (found.map (Located.lower n)).filter keep = (found.filter keep).map (Located.lower n) := by
  rw [List.filter_map, show keep ∘ Located.lower n = keep from funext h]

/-! ## Scans -/

/-- **Scanning below empty lines.**  The scan `scan k` numbers the lines from `k` on. -/
lemma scan_lowerLines {α : Type} (scan : Nat → List Text → List (Located α))
    (hempty : ∀ k ls, scan k ([] :: ls) = scan (k + 1) ls)
    (hnext : ∀ k ls, scan (k + 1) ls = (scan k ls).map (Located.lower 1)) (k n : Nat)
    (ls : List Text) : scan k (lowerLines n ls) = (scan k ls).map (Located.lower n) := by
  induction n generalizing k with
  | zero => exact (List.map_id _).symm
  | succ n ih =>
      rw [lowerLines_succ, hempty, ih, hnext, List.map_map]
      refine List.map_congr_left ?_
      intro f _
      rw [Function.comp_apply, lower_lower, Nat.add_comm]

/-- **What is looked for line by line** is found below empty lines as before, if nothing is found on
an empty line. -/
lemma locate_lowerLines {α : Type} {look : Text → List Text → List α}
    (hempty : ∀ ls, look [] ls = []) (n : Nat) (ls : List Text) :
    locate look (lowerLines n ls) = (locate look ls).map (Located.lower n) := by
  refine scan_lowerLines (locateFrom look) ?_ ?_ 1 n ls
  · intro k ls
    rw [locateFrom, hempty, List.map_nil, List.nil_append]
  · intro k ls
    exact locateFrom_add look k 1 ls

lemma locateOn_lowerLines {α : Type} {look : Text → Option α} (hempty : look [] = none) (n : Nat)
    (ls : List Text) :
    locateOn look (lowerLines n ls) = (locateOn look ls).map (Located.lower n) :=
  locate_lowerLines (fun _ => by rw [hempty, Option.toList_none]) n ls

/-- Numbering begun one line later moves every comment. -/
lemma scanFrom_succ (state : Comment.State) (k : Nat) (ls : List Text) :
    Comment.scanFrom state (k + 1) ls
      = (Comment.scanFrom state k ls).map (Located.lower 1) := by
  induction ls generalizing state k with
  | nil => rfl
  | cons l ls ih => simp [Comment.scanFrom, ih, Located.lower]

/-- Outside of comments an empty line is read as nothing and leaves the automaton there. -/
lemma scan_comments_lowerLines (n : Nat) (ls : List Text) :
    Comment.scan (lowerLines n ls) = (Comment.scan ls).map (Located.lower n) := by
  have hstep : Comment.step .code [] = (.code, none) := by decide
  refine scan_lowerLines (Comment.scanFrom .code) ?_ (scanFrom_succ .code) 1 n ls
  intro k ls
  simp [Comment.scanFrom, hstep]

/-- Numbering begun one line later moves every block, and does not change how many lines are
skipped. -/
lemma coverFrom_succ (isStart : Text → Bool) (d : Delimiter) (k skip : Nat) (ls : List Text) :
    coverFrom isStart d (k + 1) skip ls
      = (coverFrom isStart d k skip ls).map (Located.lower 1) := by
  induction ls generalizing k skip with
  | nil => rfl
  | cons l ls ih =>
      cases skip with
      | succ skip => exact ih (k + 1) skip
      | zero =>
          rw [coverFrom, coverFrom]
          split_ifs
          · dsimp only
            rw [ih, List.map_cons]
            rfl
          · exact ih (k + 1) 0

/-- **Blocks below empty lines** are visited as before. -/
lemma cover_lowerLines {isStart : Text → Bool} (hempty : isStart [] = false) (d : Delimiter)
    (n : Nat) (ls : List Text) :
    cover isStart d (lowerLines n ls) = (cover isStart d ls).map (Located.lower n) := by
  refine scan_lowerLines (fun k => coverFrom isStart d k 0) ?_ ?_ 1 n ls
  · intro k ls
    simp [coverFrom, hempty]
  · intro k ls
    exact coverFrom_succ isStart d k 0 ls

lemma tryBlocks_lowerLines (n : Nat) (ls : List Text) :
    tryBlocks (lowerLines n ls) = (tryBlocks ls).map (Located.lower n) :=
  cover_lowerLines (by decide) .brace n ls

lemma markupBlocks_lowerLines (n : Nat) (ls : List Text) :
    markupBlocks (lowerLines n ls) = (markupBlocks ls).map (Located.lower n) :=
  cover_lowerLines (by decide) .paren n ls

/-- A construct that does not occur in the empty text is found on the same lines, moved. -/
lemma linesWith_lowerLines {construct : Place → Bool} (hempty : anywhere construct [] = false)
    (n : Nat) (ls : List Text) :
    linesWith construct (lowerLines n ls) = (linesWith construct ls).map (· + n) := by
  rw [linesWith, linesWith, locateOn_lowerLines, List.map_map, List.map_map]
  · rfl
  · rw [hempty, Bool.and_false, if_neg Bool.false_ne_true]

lemma collect_functions_lowerLines (n : Nat) (ls : List Text) :
    FunctionBlock.collect (lowerLines n ls)
      = (FunctionBlock.collect ls).map (Located.lower n) :=
  locate_lowerLines (fun _ => rfl) n ls

namespace Hook

lemma misplaced_lowerLines (n : Nat) (ls : List Text) :
    misplaced (lowerLines n ls) = (misplaced ls).map (Located.lower n) :=
  locate_lowerLines (fun _ => rfl) n ls

/-- A line is counted once for every effect on it, and an empty line not at all. -/
lemma effectLines_lowerLines (n : Nat) (ls : List Text) :
    effectLines (lowerLines n ls) = (effectLines ls).map (· + n) := by
  have hempty : countPlaces (isCallOf ["useEffect", "useCallback", "useMemo"]) [] = 0 := by decide
  rw [effectLines, effectLines, locate_lowerLines, List.map_map, List.map_map]
  · rfl
  · intro _
    rw [hempty, List.replicate_zero]

lemma states_lowerLines (n : Nat) (ls : List Text) :
    states (lowerLines n ls) = (states ls).map (Located.lower n) := by
  have hempty : countPlaces isStateCall [] = 0 := by decide
  refine locate_lowerLines ?_ n ls
  intro _
  rw [hempty, List.replicate_zero]

end Hook

namespace Declaration

lemma constants_lowerLines (n : Nat) (ls : List Text) :
    constants (lowerLines n ls) = (constants ls).map (Located.lower n) :=
  locate_lowerLines (fun _ => rfl) n ls

lemma plainConstants_lowerLines (n : Nat) (ls : List Text) :
    plainConstants (lowerLines n ls) = (plainConstants ls).map (Located.lower n) :=
  locateOn_lowerLines rfl n ls

lemma components_lowerLines (n : Nat) (ls : List Text) :
    components (lowerLines n ls) = (components ls).map (Located.lower n) :=
  locateOn_lowerLines rfl n ls

lemma types_lowerLines (n : Nat) (ls : List Text) :
    types (lowerLines n ls) = (types ls).map (Located.lower n) :=
  locate_lowerLines (fun _ => rfl) n ls

end Declaration

/-! ## The search for a `catch` -/

/-- The walk up from a call ends at the first line of the file.  Empty lines above open no brace, so
it ends there with the same answer. -/
lemma catchAbove_append_replicate (depth : Nat) (below : List Text) (distance : Nat)
    (above : List Text) (n : Nat) :
    catchAbove depth below distance (above ++ List.replicate n [])
      = catchAbove depth below distance above := by
  induction above generalizing depth below distance with
  | nil =>
      rw [List.nil_append]
      induction n generalizing below distance with
      | zero => rfl
      | succ n ih =>
          rw [List.replicate_succ, catchAbove_cons]
          exact (Bool.false_or _).trans (ih _ _)
  | cons l above ih => rw [List.cons_append, catchAbove_cons, catchAbove_cons, ih]

/-- The lines above the ones that are scanned are kept for the walk back; empty ones at their far
end only move the numbering. -/
lemma consoleCallsFrom_append_replicate (above : List Text) (k n : Nat) (ls : List Text) :
    consoleCallsFrom (above ++ List.replicate n []) (k + n) ls
      = (consoleCallsFrom above k ls).map (Located.lower n) := by
  induction ls generalizing above k with
  | nil => rfl
  | cons l ls ih =>
      have hnext : k + n + 1 = k + 1 + n := by omega
      have hrest := ih (l :: above) (k + 1)
      rw [List.cons_append] at hrest
      rw [consoleCallsFrom, consoleCallsFrom, hnext, hrest, List.map_append, List.map_map]
      congr 1
      refine List.map_congr_left ?_
      intro column _
      rw [insideCatch_split, catchAbove_append_replicate, Function.comp_apply, insideCatch_split]
      rfl

/-- Scanning empty lines finds no call and puts them above. -/
lemma consoleCallsFrom_lowerLines (above : List Text) (k n : Nat) (ls : List Text) :
    consoleCallsFrom above k (lowerLines n ls)
      = consoleCallsFrom (List.replicate n [] ++ above) (k + n) ls := by
  have hcolumn : consoleColumn? [] = none := by decide
  induction n generalizing above k with
  | zero => rfl
  | succ n ih =>
      have habove : List.replicate n [] ++ [] :: above = List.replicate (n + 1) [] ++ above := by
        rw [List.replicate_succ', List.append_assoc, List.singleton_append]
      have hnext : k + 1 + n = k + (n + 1) := by omega
      rw [lowerLines_succ, consoleCallsFrom, hcolumn, ite_self, Option.toList_none, List.map_nil,
        List.nil_append, ih, habove, hnext]

lemma consoleCalls_lowerLines (n : Nat) (ls : List Text) :
    consoleCalls (lowerLines n ls) = (consoleCalls ls).map (Located.lower n) := by
  rw [consoleCalls, consoleCallsFrom_lowerLines, List.append_nil]
  exact consoleCallsFrom_append_replicate [] 1 n ls

/-! ## Imports -/

/-- A statement `n` lines further down. -/
def ImportStatement.lower (n : Nat) (s : ImportStatement) : ImportStatement :=
  ⟨s.text, s.line + n, s.lastIndex + n⟩

namespace ImportStatement

/-- Statements begun `n` lines further down end `n` lines further down. -/
lemma collectFrom_add (i n skip : Nat) (ls : List Text) :
    collectFrom (i + n) skip ls = (collectFrom i skip ls).map (lower n) := by
  induction ls generalizing i skip with
  | nil => rfl
  | cons l ls ih =>
      have hnext : i + n + 1 = i + 1 + n := by omega
      cases skip with
      | succ skip =>
          rw [collectFrom, collectFrom, hnext]
          exact ih (i + 1) skip
      | zero =>
          rw [collectFrom, collectFrom, hnext]
          split_ifs
          · have hlast (joined : Nat) : i + n + joined = i + joined + n := by omega
            dsimp only
            rw [ih, hlast, List.map_cons]
            rfl
          · exact ih (i + 1) 0

/-- **Imports below empty lines** bind the same names. -/
lemma collect_lowerLines (n : Nat) (ls : List Text) :
    collect (lowerLines n ls) = (collect ls).map (lower n) := by
  have hstart : isStart (trim []) = false := by decide
  have hempty (i : Nat) : collectFrom i 0 (lowerLines n ls) = collectFrom (i + n) 0 ls := by
    induction n generalizing i with
    | zero => rfl
    | succ n ih =>
        rw [lowerLines_succ, collectFrom, hstart, if_neg Bool.false_ne_true, ih]
        congr 1
        omega
  rw [collect, hempty, collectFrom_add]
  rfl

end ImportStatement

/-- A name is searched behind its statement.  The lines there are the same, since the index of the
last line of the statement moves with them. -/
lemma Import.unused_lowerLines (n : Nat) (ls : List Text) :
    unused (lowerLines n ls) = (unused ls).map (Located.lower n) := by
  have hbehind (i : Nat) : (lowerLines n ls).drop (i + n + 1) = ls.drop (i + 1) := by
    have hindex : i + n + 1 = (List.replicate n ([] : Text)).length + (i + 1) := by
      rw [List.length_replicate]
      omega
    rw [lowerLines, hindex, List.drop_length_add_append]
  rw [unused, unused, ImportStatement.collect_lowerLines, List.flatMap_map, List.map_flatMap]
  refine List.flatMap_congr ?_
  intro s _
  simp only [ImportStatement.lower, hbehind, List.map_map]
  rfl

/-! ## Diagnoses -/

/-- A diagnosis of a file that stands `n` lines further down. -/
def Diagnosis.lower (n : Nat) : Diagnosis → Diagnosis
  | fileSize count limit => fileSize (count + n) limit
  | unusedImports names => unusedImports (names.map (Located.lower n))
  | consoleCalls lines inCatch => consoleCalls (lines.map (· + n)) inCatch
  | comments lines => comments (lines.map (· + n))
  | disabledCode lines => disabledCode (lines.map (· + n))
  | reminders lines => reminders (lines.map (· + n))
  | longFunctions functions => longFunctions (functions.map (Located.lower n))
  | similarHandlers handlers => similarHandlers (handlers.map (Located.lower n))
  | manyParams functions => manyParams (functions.map (Located.lower n))
  | tryBlocks lines => tryBlocks (lines.map (· + n))
  | misplacedHooks hooks => misplacedHooks (hooks.map (Located.lower n))
  | effectHooks lines => effectHooks (lines.map (· + n))
  | manyStates states limit => manyStates (states.map (Located.lower n)) limit
  | largeConstants constants limit => largeConstants (constants.map (Located.lower n)) limit
  | scatteredConstants constants => scatteredConstants (constants.map (Located.lower n))
  | manyComponents components => manyComponents (components.map (Located.lower n))
  | longTypes types => longTypes (types.map (Located.lower n))
  | manyTypes types => manyTypes (types.map (Located.lower n))
  | largeMarkup blocks => largeMarkup (blocks.map (Located.lower n))
  | atomicDesign level fileName => atomicDesign level fileName
  | queries lines => queries (lines.map (· + n))
  | fetches lines => fetches (lines.map (· + n))

namespace Diagnosis

/-- What a diagnosis is about does not depend on where the file stands. -/
lemma category_lower (n : Nat) (d : Diagnosis) : (d.lower n).category = d.category := by
  cases d <;> rfl

lemma isFileLevel_lower (n : Nat) (d : Diagnosis) : (d.lower n).isFileLevel = d.isFileLevel := by
  cases d <;> rfl

/-- The lines that the issue of a diagnosis may stand on move. -/
lemma anchors_lower (n : Nat) (d : Diagnosis) : (d.lower n).anchors = d.anchors.map (· + n) := by
  cases d <;> simp [lower, anchors, lines, Function.comp_def]

end Diagnosis

/-- `i'` is what becomes of the issue `i` when its file moves `n` lines down. -/
structure Issue.Lowered (n : Nat) (i i' : Issue) : Prop where
  category : i'.category = i.category
  severity : i'.severity = i.severity
  fileLevel : i'.fileLevel = i.fileLevel
  inline_line : i.fileLevel = false → i'.line = i.line + n
  file_line : i.fileLevel = true → i.line = 1 ∧ i'.line = 1

/-- The first of the lines moves with all of them. -/
lemma min?_map_add (n : Nat) (ls : List Nat) :
    ((ls.map (· + n)).map Int.ofNat).min? = ((ls.map Int.ofNat).min?).map (· + (n : Int)) := by
  cases hmin : (ls.map Int.ofNat).min? with
  | none =>
      rw [List.min?_eq_none_iff, List.map_eq_nil_iff] at hmin
      rw [hmin]
      rfl
  | some m =>
      rw [List.min?_eq_some_iff] at hmin
      rw [Option.map_some, List.min?_eq_some_iff]
      simp only [List.mem_map, forall_exists_index, and_imp, forall_apply_eq_imp_iff₂] at hmin ⊢
      obtain ⟨⟨k, hk, rfl⟩, hle⟩ := hmin
      refine ⟨⟨k + n, ⟨k, hk, rfl⟩, rfl⟩, ?_⟩
      intro a ha
      have := hle a ha
      simp only [Int.ofNat_eq_natCast] at this ⊢
      omega

/-- **A diagnosis makes its issue further down.**  On the whole file it stays on line one. -/
lemma issues_lower (n : Nat) (d : Diagnosis) :
    List.Forall₂ (Issue.Lowered n) d.issues (d.lower n).issues := by
  rw [Diagnosis.issues, Diagnosis.issues, Diagnosis.isFileLevel_lower, Diagnosis.category_lower]
  split_ifs
  · exact .cons ⟨rfl, rfl, rfl, fun h => Bool.noConfusion h, fun _ => ⟨rfl, rfl⟩⟩ .nil
  · rw [consolidate, consolidate, Diagnosis.anchors_lower, min?_map_add]
    cases (d.anchors.map Int.ofNat).min? with
    | none => exact .nil
    | some first => exact .cons ⟨rfl, rfl, rfl, fun _ => rfl, fun h => Bool.noConfusion h⟩ .nil

/-! ## Rules -/

/-- The file below `n` empty lines. -/
def Source.lowered (n : Nat) (s : Source) : Source := ⟨s.path, List.replicate n '\n' ++ s.content⟩

/-- A newline in front of a text is an empty line above it. -/
lemma lines_lowered (n : Nat) (s : Source) : (s.lowered n).lines = lowerLines n s.lines := by
  rw [Source.lines, Source.lines, Source.lowered]
  induction n with
  | zero => rfl
  | succ n ih => rw [lowerLines_succ, ← ih, List.replicate_succ, List.cons_append, lines_cons,
      if_pos rfl]

/-- The level of a file is told by counts in its whole text, and no newline in front is part of what
is counted. -/
lemma suggest_lowered (n : Nat) (s : Source) :
    AtomicLevel.suggest (s.lowered n).content = AtomicLevel.suggest s.content := by
  have hcount {f : Place → Bool} (hf : Steady f false) :
      countPlaces f (s.lowered n).content = countPlaces f s.content := by
    rw [Source.lowered]
    induction n with
    | zero => rfl
    | succ n ih =>
        rw [List.replicate_succ, List.cons_append, ← ih]
        exact countPlaces_eq hf (paddedLines_cons_blank isBlank_newline _)
  rw [AtomicLevel.suggest, AtomicLevel.suggest, hcount Hook.steady_isStateCall,
    hcount (Hook.steady_isCallOf (by decide)), hcount steady_isComponentTag]

/-- The three questions about functions ask for their names and measures, not for their lines. -/
lemma functions_lower (t : Thresholds) (n : Nat) (fs : List (Located FunctionBlock)) :
    Rule.longFunctions t (fs.map (Located.lower n))
        = (Rule.longFunctions t fs).map (Located.lower n) ∧
      Rule.similarHandlers (fs.map (Located.lower n))
        = (Rule.similarHandlers fs).map (Located.lower n) ∧
      Rule.manyParams t (fs.map (Located.lower n))
        = (Rule.manyParams t fs).map (Located.lower n) := by
  refine ⟨?_, ?_, ?_⟩
  · rw [Rule.longFunctions, Rule.longFunctions, List.filter_map, List.map_map, List.map_map]
    rfl
  · simp [Rule.similarHandlers, List.filter_map, Function.comp_def, List.countP_map, Located.lower,
      apply_ite (List.map _)]
  · simp [Rule.manyParams, List.filter_map, Function.comp_def, Located.lower]

open Rule in
/-- **A rule finds the same below empty lines, further down.**  The rule on the size of a file is
the one that counts the lines in front. -/
lemma diagnose_lowered (t : Thresholds) (n : Nat) (s : Source) {r : Rule} (hr : r ≠ .fileSize) :
    r.diagnose t (s.lowered n) = (r.diagnose t s).map (Diagnosis.lower n) := by
  have hpath : (s.lowered n).path = s.path := rfl
  have hlines : (s.lowered n).lines = lowerLines n s.lines := lines_lowered n s
  cases r with
  | fileSize => exact absurd rfl hr
  | unusedImports =>
      simp only [diagnose, diagnoseImports, hlines, Import.unused_lowerLines]
      rfl
  | consoleCalls =>
      simp only [diagnose, diagnoseConsole, hlines, consoleCalls_lowerLines, List.map_map,
        List.any_map]
      simp [Diagnosis.lower, Function.comp_def]
  | comments =>
      simp only [diagnose, diagnoseComments, hlines, scan_comments_lowerLines, Comment.linesOf,
        List.filter_map, List.map_map]
      simp [Diagnosis.lower, Function.comp_def]
  | functions =>
      obtain ⟨hlong, hsimilar, hparams⟩ := functions_lower t n (FunctionBlock.collect s.lines)
      simp only [diagnose, diagnoseFunctions, hlines, collect_functions_lowerLines, hlong, hsimilar,
        hparams]
      rfl
  | tryBlocks =>
      simp only [diagnose, diagnoseTry, hlines, tryBlocks_lowerLines, List.length_map, List.map_map]
      split_ifs
      · rfl
      · simp [Diagnosis.lower, Function.comp_def]
  | hookPlacement =>
      simp only [diagnose, diagnoseHooks, hpath, hlines, Hook.misplaced_lowerLines,
        Hook.effectLines_lowerLines, List.length_map]
      split_ifs <;> rfl
  | stateCount =>
      simp only [diagnose, diagnoseStates, hpath, hlines, Hook.states_lowerLines, List.length_map]
      split_ifs <;> rfl
  | constants =>
      have hlarge := filter_map_lower (n := n) (fun c => t.constantLines < (c.item.size : Int))
        (fun _ => rfl) (Declaration.constants s.lines)
      simp only [diagnose, diagnoseConstants, hpath, hlines, Declaration.constants_lowerLines,
        Declaration.plainConstants_lowerLines, hlarge, List.isEmpty_map, List.length_map]
      split_ifs <;> rfl
  | components =>
      simp only [diagnose, diagnoseComponents, hpath, hlines, Declaration.components_lowerLines,
        List.length_map]
      split_ifs <;> rfl
  | inlineTypes =>
      have hlong := filter_map_lower (n := n) (fun f => 5 < f.item.size) (fun _ => rfl)
        (Declaration.types s.lines)
      have hnames (found : List (Located Measured)) :
          namesOf (found.map (Located.lower n)) = (namesOf found).map (Located.lower n) := by
        simp [namesOf, Function.comp_def, Located.lower]
      simp only [diagnose, diagnoseTypes, hpath, hlines, Declaration.types_lowerLines, hlong,
        hnames, List.isEmpty_map, List.length_map]
      split_ifs <;> rfl
  | markupSize =>
      simp only [diagnose, diagnoseMarkup, hpath, hlines, markupBlocks_lowerLines, List.filter_map]
      split_ifs <;> rfl
  | atomicDesign =>
      simp only [diagnose, diagnoseAtomic, hpath, suggest_lowered]
      split_ifs <;> rfl
  | queries =>
      have hempty : anywhere isQuery [] = false := by decide
      simp only [diagnose, diagnoseQueries, hpath, hlines, linesWith_lowerLines hempty]
      split_ifs <;> rfl
  | fetches =>
      have hempty : anywhere isFetch [] = false := by decide
      simp only [diagnose, diagnoseFetches, hpath, hlines, linesWith_lowerLines hempty]
      split_ifs <;> rfl

/-! ## Reports -/

lemma forall₂_flatMap {α β : Type} {R : β → β → Prop} {f g : α → List β} {xs : List α}
    (h : ∀ x ∈ xs, List.Forall₂ R (f x) (g x)) :
    List.Forall₂ R (xs.flatMap f) (xs.flatMap g) := by
  induction xs with
  | nil => exact .nil
  | cons x xs ih =>
      rw [List.flatMap_cons, List.flatMap_cons]
      exact List.rel_append (h x List.mem_cons_self)
        (ih fun y hy => h y (List.mem_cons_of_mem _ hy))

lemma check_lowered (t : Thresholds) (n : Nat) (s : Source) {r : Rule} (hr : r ≠ .fileSize) :
    List.Forall₂ (Issue.Lowered n) (r.check t s) (r.check t (s.lowered n)) := by
  rw [Rule.check, Rule.check, diagnose_lowered t n s hr, List.flatMap_map]
  exact forall₂_flatMap fun d _ => issues_lower n d

/-- The rules other than the one on the size of a file. -/
def Rule.placed : List Rule := Rule.all.filter (· ≠ .fileSize)

/-- Taking the issue on the size of the file out of a report is leaving out its rule: no other rule
makes an issue of this category. -/
lemma lint_filter_fileSize (t : Thresholds) (s : Source) :
    (lint t s).filter (fun i => i.category ≠ "file-size")
      = Rule.placed.flatMap fun r => r.check t s := by
  have hsize : (Rule.fileSize.check t s).filter (fun i => i.category ≠ "file-size") = [] := by
    rw [List.filter_eq_nil_iff]
    intro i hi
    have hcategory := (check_categories t s .fileSize).subset (List.mem_map_of_mem hi)
    simpa [Rule.categories] using hcategory
  have hother (r : Rule) (hr : r ≠ .fileSize) :
      (r.check t s).filter (fun i => i.category ≠ "file-size") = r.check t s := by
    rw [List.filter_eq_self]
    intro i hi
    have hcategory := (check_categories t s r).subset (List.mem_map_of_mem hi)
    rw [decide_eq_true_eq]
    intro hsame
    rw [hsame] at hcategory
    exact hr (rule_eq_of_mem_categories hcategory List.mem_cons_self)
  have hall : Rule.all = .fileSize :: Rule.placed := by decide
  rw [lint, Linter.issues, List.filter_flatMap, Linter.full, hall, List.flatMap_cons, hsize,
    List.nil_append]
  refine List.flatMap_congr ?_
  intro r hr
  exact hother r (by simpa using (List.mem_filter.mp hr).2)

/-- **Empty lines in front of a file.**  Apart from what is said about the size of the file, the
report is the same: the same categories in the same order, with the same severity and the same
concern for the whole file or a part of it.  Every issue on a part stands exactly `n` lines lower,
and every issue on the whole stays on line one. -/
theorem lint_below_empty_lines (t : Thresholds) (path content : Text) (n : Nat) :
    List.Forall₂ (Issue.Lowered n)
      ((lint t ⟨path, content⟩).filter fun i => i.category ≠ "file-size")
      ((lint t ⟨path, List.replicate n '\n' ++ content⟩).filter
        fun i => i.category ≠ "file-size") := by
  rw [lint_filter_fileSize, lint_filter_fileSize]
  refine forall₂_flatMap ?_
  intro r hr
  have hplaced : r ≠ .fileSize := by simpa using (List.mem_filter.mp hr).2
  exact check_lowered t n ⟨path, content⟩ hplaced

end ReactLint
