import ReactLint.Linter
import ReactLint.Proofs.Blank.Line
import ReactLint.Proofs.Import.Name

/-!
# A file without the blanks around its lines

A rule finds the same in a file and in the file with all of its lines trimmed (`Source.trimmed`),
because each of the collections that it reads does: blocks and covers, which count delimiters;
declarations and calls, which are found line by line; function bodies and the text behind an import,
which put lines together.  So a rule finds the same in any two files whose lines have the same
trimmed forms (`diagnose_eq_of_trim`).

The one collection that is not of this kind is that of the declarations at the left margin, which
`diagnoseHooks` reads beside the calls of effect hooks.
-/

namespace ReactLint

open Text

/-! ## Blocks -/

/-- A block is closed by the balances of its lines, and trimming changes none of them. -/
lemma closingExtent_map_trim (d : Delimiter) (depth : Int) (ls : List Text) :
    closingExtent d depth (ls.map trim) = closingExtent d depth ls := by
  induction ls generalizing depth with
  | nil => rfl
  | cons l ls ih => simp only [List.map_cons, closingExtent, balance_trim, ih]

@[simp] lemma extent_map_trim (d : Delimiter) (ls : List Text) :
    extent d (ls.map trim) = extent d ls := by
  cases ls with
  | nil => rfl
  | cons l ls => simp only [List.map_cons, extent, openDepth_trim, closingExtent_map_trim]

@[simp] lemma extent_cons_trim (d : Delimiter) (l : Text) (ls : List Text) :
    extent d (trim l :: ls.map trim) = extent d (l :: ls) :=
  extent_map_trim d (l :: ls)

/-- The lines of a block are trimmed with the file; which lines they are stays the same. -/
lemma blockLines_map_trim (d : Delimiter) (l : Text) (ls : List Text) :
    blockLines d (trim l) (ls.map trim) = (blockLines d l ls).map trim := by
  rw [blockLines, blockLines, ← List.map_cons, extent_map_trim, List.map_take]

/-- **Blocks are visited alike**, if what starts one is told by the trimmed line. -/
lemma coverFrom_map_trim {isStart : Text → Bool} (h : ∀ l, isStart (trim l) = isStart l)
    (d : Delimiter) (n skip : Nat) (ls : List Text) :
    coverFrom isStart d n skip (ls.map trim) = coverFrom isStart d n skip ls := by
  induction ls generalizing n skip with
  | nil => rfl
  | cons l ls ih =>
      cases skip with
      | succ skip => exact ih (n + 1) skip
      | zero => simp only [List.map_cons, coverFrom, h, extent_cons_trim, ih]

lemma tryBlocks_map_trim (ls : List Text) : tryBlocks (ls.map trim) = tryBlocks ls :=
  coverFrom_map_trim opensTry_trim .brace 1 0 ls

lemma markupBlocks_map_trim (ls : List Text) : markupBlocks (ls.map trim) = markupBlocks ls :=
  coverFrom_map_trim returnsMarkup_trim .paren 1 0 ls

/-! ## Catch blocks -/

/-- The walk up goes from line to line with the braces that are pending, which is what `catchOn`
keeps of a line. -/
lemma catchAbove_map_trim (depth : Nat) (below : List Text) (distance : Nat) (above : List Text) :
    catchAbove depth (below.map trim) distance (above.map trim)
      = catchAbove depth below distance above := by
  induction above generalizing depth below distance with
  | nil => rfl
  | cons l above ih =>
      have hbelow := ih (catchOn depth l).1 (l :: below) (distance + 1)
      rw [List.map_cons] at hbelow ⊢
      show ((catchOn depth (trim l)).2 && decide (_ ≤ extent .brace (trim l :: below.map trim)) ||
          catchAbove (catchOn depth (trim l)).1 _ _ _)
        = ((catchOn depth l).2 && decide (_ ≤ extent .brace (l :: below)) ||
          catchAbove (catchOn depth l).1 _ _ _)
      rw [catchOn_trim, extent_cons_trim, hbelow]

/-- The console calls on a line and below it, by the walk back from the first. -/
lemma consoleCallsFrom_cons (above : List Text) (n : Nat) (l : Text) (ls : List Text) :
    consoleCallsFrom above n (l :: ls)
      = ((if isCommentLine l then none else consoleWalk? l).toList.map fun walk =>
          ⟨n, walk.2 || catchAbove walk.1 (l :: ls) 0 above⟩) ++
        consoleCallsFrom (l :: above) (n + 1) ls := by
  have hcatch (column : Nat) : insideCatch (above.reverse ++ l :: ls) above.length column
      = ((catchOn 0 (l.take column)).2 ||
        catchAbove (catchOn 0 (l.take column)).1 (l :: ls) 0 above) :=
    insideCatch_split above l ls column
  simp only [consoleCallsFrom, hcatch]
  split_ifs
  · rfl
  · cases hcolumn : consoleColumn? l <;> simp [consoleWalk?, hcolumn]

/-- The lines above a call are trimmed as well as those still to come. -/
lemma consoleCallsFrom_map_trim (above : List Text) (n : Nat) (ls : List Text) :
    consoleCallsFrom (above.map trim) n (ls.map trim) = consoleCallsFrom above n ls := by
  induction ls generalizing above n with
  | nil => rfl
  | cons l ls ih =>
      have hrest := ih (l :: above) (n + 1)
      have hcatch (depth : Nat) := catchAbove_map_trim depth (l :: ls) 0 above
      rw [List.map_cons] at hrest hcatch ⊢
      simp only [consoleCallsFrom_cons, isCommentLine_trim, consoleWalk?_trim, hcatch, hrest]

lemma consoleCalls_map_trim (ls : List Text) : consoleCalls (ls.map trim) = consoleCalls ls :=
  consoleCallsFrom_map_trim [] 1 ls

/-! ## What is found line by line -/

section Locate

variable {α β : Type} {edit : Text → Text}

/-- **What is looked for line by line** is found on the same lines of an edited file, edited itself,
if every look finds it so. -/
lemma locateFrom_map {look : Text → List Text → List α} {look' : Text → List Text → List β}
    {f : α → β} (h : ∀ l ls, look' (edit l) (ls.map edit) = (look l ls).map f) (n : Nat)
    (ls : List Text) :
    locateFrom look' n (ls.map edit)
      = (locateFrom look n ls).map fun found => ⟨found.line, f found.item⟩ := by
  induction ls generalizing n with
  | nil => rfl
  | cons l ls ih =>
      rw [List.map_cons, locateFrom, locateFrom, h, ih, List.map_append, List.map_map, List.map_map]
      rfl

lemma locate_map {look : Text → List Text → List α}
    (h : ∀ l ls, look (edit l) (ls.map edit) = look l ls) (ls : List Text) :
    locate look (ls.map edit) = locate look ls := by
  have hlook : ∀ l ls, look (edit l) (ls.map edit) = (look l ls).map id :=
    fun l ls => (h l ls).trans (List.map_id _).symm
  exact (locateFrom_map hlook 1 ls).trans (List.map_id _)

end Locate

lemma locateOn_map_trim {α : Type} {look : Text → Option α} (h : ∀ l, look (trim l) = look l)
    (ls : List Text) : locateOn look (ls.map trim) = locateOn look ls :=
  locate_map (fun l _ => by rw [h]) ls

/-- A construct is looked for on lines that are no comments. -/
lemma linesWith_map_trim {construct : Place → Bool} (h : Steady construct false)
    (ls : List Text) : linesWith construct (ls.map trim) = linesWith construct ls := by
  rw [linesWith, linesWith, locateOn_map_trim]
  intro l
  rw [isCommentLine_trim, anywhere_trim h]

namespace Declaration

lemma constants_map_trim (ls : List Text) : constants (ls.map trim) = constants ls :=
  locate_map (fun l ls => by rw [constantName?_trim, firstOn?_trim, extent_cons_trim]) ls

lemma plainConstants_map_trim (ls : List Text) : plainConstants (ls.map trim) = plainConstants ls :=
  locateOn_map_trim plainConstantName?_trim ls

lemma components_map_trim (ls : List Text) : components (ls.map trim) = components ls :=
  locateOn_map_trim component?_trim ls

lemma types_map_trim (ls : List Text) : types (ls.map trim) = types ls :=
  locate_map (fun l ls => by rw [typeName?_trim, extent_cons_trim]) ls

end Declaration

namespace Hook

/-- How many effect hooks are called on a line is counted place by place. -/
lemma effectLines_map_trim (ls : List Text) : effectLines (ls.map trim) = effectLines ls := by
  rw [effectLines, effectLines, locate_map]
  intro l ls
  rw [countPlaces_trim (steady_isCallOf (by decide))]

lemma states_map_trim (ls : List Text) : states (ls.map trim) = states ls :=
  locate_map (fun l ls => by rw [countPlaces_trim steady_isStateCall, stateName?_trim]) ls

end Hook

/-! ## Functions -/

namespace FunctionBlock

/-- The function with its lines trimmed. -/
def trimmed (f : FunctionBlock) : FunctionBlock := ⟨f.name, trim f.header, f.lines.map trim⟩

lemma length_trimmed (f : FunctionBlock) : f.trimmed.length = f.length := List.length_map _

/-- The body of a function is put together from its lines, so the blanks are in the middle of the
text that is searched. -/
lemma setsFromRemote_trimmed (f : FunctionBlock) : f.trimmed.setsFromRemote = f.setsFromRemote := by
  have hsetter := apply_unlines (fun _ _ h => callsSetter_eq h) f.lines
  have hremote := apply_unlines (fun _ _ h => mentionsRemote_eq h) f.lines
  simp only [setsFromRemote, trimmed, hsetter, hremote]

/-- A function keeps the lines of its block, so here the finds are edited and not the same. -/
lemma collect_map_trim (ls : List Text) :
    collect (ls.map trim) = (collect ls).map fun f => ⟨f.line, f.item.trimmed⟩ := by
  refine locateFrom_map (f := trimmed) (fun l ls => ?_) 1 ls
  rw [startingAt?, startingAt?, headerName?_trim, blockLines_map_trim]
  cases headerName? l <;> rfl

end FunctionBlock

/-- What the rules read of the functions of a file is the same for the trimmed ones. -/
lemma functions_trimmed (t : Thresholds) (fs : List (Located FunctionBlock)) :
    let fs' : List (Located FunctionBlock) := fs.map fun f => ⟨f.line, f.item.trimmed⟩
    Rule.longFunctions t fs' = Rule.longFunctions t fs ∧
      Rule.similarHandlers fs' = Rule.similarHandlers fs ∧
      Rule.manyParams t fs' = Rule.manyParams t fs := by
  have hname (f : FunctionBlock) : f.trimmed.name = f.name := rfl
  have hheader (f : FunctionBlock) : paramCount f.trimmed.header = paramCount f.header :=
    paramCount_trim f.header
  intro fs'
  refine ⟨?_, ?_, ?_⟩
  · simp [fs', Rule.longFunctions, List.filter_map, Function.comp_def,
      FunctionBlock.length_trimmed, hname]
  · simp [fs', Rule.similarHandlers, List.filter_map, List.countP_map, Function.comp_def,
      FunctionBlock.setsFromRemote_trimmed, hname]
  · simp [fs', Rule.manyParams, Function.comp_def, hname, hheader]

/-! ## Imports -/

/-- Lines are trimmed when they are joined to a statement, so nothing is left to trim. -/
lemma ImportStatement.gather_map_trim (t : Text) (ls : List Text) :
    gather t (ls.map trim) = gather t ls := by
  induction ls generalizing t with
  | nil => rfl
  | cons l ls ih => simp only [List.map_cons, gather, trim_trim, ih]

lemma ImportStatement.collectFrom_map_trim (i skip : Nat) (ls : List Text) :
    collectFrom i skip (ls.map trim) = collectFrom i skip ls := by
  induction ls generalizing i skip with
  | nil => rfl
  | cons l ls ih =>
      cases skip with
      | succ skip => exact ih (i + 1) skip
      | zero => simp only [List.map_cons, collectFrom, trim_trim, gather_map_trim, ih]

namespace Import

/-- A name that starts and ends in no blank is found in a text whatever blanks stand around its
lines. -/
lemma isUsed_eq {name s t : Text} (hname : Solid name) (h : PaddedLines s t) :
    isUsed name s = isUsed name t := by
  refine anywhere_eq ⟨fun x s t h => ?_, fun x s hs => ?_, fun s hb => ?_⟩ h
  · have hrest : (after? name s).any (fun rest => !rest.head?.any isIdent)
        = (after? name t).any fun rest => !rest.head?.any isIdent :=
      any_eq_of_rel (rel_after? hname.1 h) fun _ _ h => by rw [head?_any_eq visible_isIdent h]
    simp only [hrest]
  · simp only [hname.after?_eq_none hs, Option.any_none, Bool.and_false]
  · simp [visible_isIdent _ hb]

/-- The names come from statements that are joined of trimmed lines, and are searched in the lines
behind put together. -/
lemma unused_map_trim {ls : List Text} (hls : ∀ l ∈ ls, '\n' ∉ l) :
    unused (ls.map trim) = unused ls := by
  rw [unused, unused, ImportStatement.collect, ImportStatement.collectFrom_map_trim]
  refine List.flatMap_congr fun s hs => ?_
  have htext : '\n' ∉ s.text := ImportStatement.newline_notMem_of_mem_collectFrom hls hs
  have hused : ∀ name ∈ names s.text,
      (!isUsed name (unlines ((ls.map trim).drop (s.lastIndex + 1))))
        = !isUsed name (unlines (ls.drop (s.lastIndex + 1))) := by
    intro name hname
    rw [← List.map_drop, apply_unlines fun _ _ h => isUsed_eq (solid_of_mem_names htext hname) h]
  dsimp only
  rw [List.filter_congr hused]

end Import

/-! ## Comments -/

/-- The automaton makes the same step on every line, so it is in the same state below. -/
lemma Comment.scanFrom_map_trim (state : State) (n : Nat) {ls : List Text}
    (hls : ∀ l ∈ ls, '\n' ∉ l) : scanFrom state n (ls.map trim) = scanFrom state n ls := by
  induction ls generalizing state n with
  | nil => rfl
  | cons l ls ih =>
      have hrest : ∀ l ∈ ls, '\n' ∉ l := fun l' hl' => hls l' (List.mem_cons_of_mem _ hl')
      simp only [List.map_cons, scanFrom, step_trim (hls l List.mem_cons_self), ih _ _ hrest]

/-! ## The trimmed file -/

/-- The file with all of its lines trimmed. -/
def Source.trimmed (s : Source) : Source := ⟨s.path, unlines (s.lines.map trim)⟩

/-- The lines of the trimmed file: none of them holds a newline, so dividing the text gives them
back. -/
lemma lines_trimmed (s : Source) : s.trimmed.lines = s.lines.map trim := by
  refine lines_unlines (by simp [Source.lines, lines]) fun l hl => ?_
  obtain ⟨u, hu, rfl⟩ := List.mem_map.mp hl
  exact fun hmem => newline_notMem_of_mem_lines hu (trim_subset u hmem)

/-- The level of a file is told by counts in the whole of its text. -/
lemma suggest_trimmed (s : Source) :
    AtomicLevel.suggest s.trimmed.content = AtomicLevel.suggest s.content := by
  have hcount {f : Place → Bool} (hf : Steady f false) :
      countPlaces f s.trimmed.content = countPlaces f s.content := by
    have hlines := apply_unlines (fun _ _ h => countPlaces_eq hf h) s.lines
    rwa [Source.lines, unlines_lines] at hlines
  rw [AtomicLevel.suggest, AtomicLevel.suggest, hcount Hook.steady_isStateCall,
    hcount (Hook.steady_isCallOf (by decide)), hcount steady_isComponentTag]

open Rule in
/-- **A rule finds the same in the trimmed file.**  The rule on the placement of hooks is the one
that looks at the left margin. -/
lemma diagnose_trimmed (t : Thresholds) (s : Source) {r : Rule} (hr : r ≠ .hookPlacement) :
    r.diagnose t s.trimmed = r.diagnose t s := by
  have hpath : s.trimmed.path = s.path := rfl
  have hlines : s.trimmed.lines = s.lines.map trim := lines_trimmed s
  have hnewline : ∀ l ∈ s.lines, '\n' ∉ l := fun l hl => newline_notMem_of_mem_lines hl
  have hcount : s.trimmed.lineCount = s.lineCount := by
    rw [Source.lineCount, hlines, List.length_map, Source.lineCount]
  cases r with
  | fileSize => simp only [diagnose, diagnoseFileSize, hcount]
  | unusedImports => simp only [diagnose, diagnoseImports, hlines, Import.unused_map_trim hnewline]
  | consoleCalls => simp only [diagnose, diagnoseConsole, hlines, consoleCalls_map_trim]
  | comments =>
      simp only [diagnose, diagnoseComments, Comment.scan, hlines,
        Comment.scanFrom_map_trim _ _ hnewline]
  | functions =>
      obtain ⟨hlong, hsimilar, hparams⟩ := functions_trimmed t (FunctionBlock.collect s.lines)
      simp only [diagnose, diagnoseFunctions, hlines, FunctionBlock.collect_map_trim, hlong,
        hsimilar, hparams]
  | tryBlocks => simp only [diagnose, diagnoseTry, hlines, tryBlocks_map_trim]
  | hookPlacement => exact absurd rfl hr
  | stateCount => simp only [diagnose, diagnoseStates, hpath, hlines, Hook.states_map_trim]
  | constants =>
      simp only [diagnose, diagnoseConstants, hpath, hlines, Declaration.constants_map_trim,
        Declaration.plainConstants_map_trim]
  | components =>
      simp only [diagnose, diagnoseComponents, hpath, hlines, Declaration.components_map_trim]
  | inlineTypes => simp only [diagnose, diagnoseTypes, hpath, hlines, Declaration.types_map_trim]
  | markupSize => simp only [diagnose, diagnoseMarkup, hpath, hlines, markupBlocks_map_trim]
  | atomicDesign => simp only [diagnose, diagnoseAtomic, hpath, suggest_trimmed]
  | queries =>
      simp only [diagnose, diagnoseQueries, hpath, hlines, linesWith_map_trim steady_isQuery]
  | fetches =>
      simp only [diagnose, diagnoseFetches, hpath, hlines, linesWith_map_trim steady_isFetch]

/-- **Blanks around lines do not matter to a rule**, the one on the placement of hooks apart: it
finds the same in files whose lines have the same trimmed forms. -/
lemma diagnose_eq_of_trim {t : Thresholds} {path content content' : Text}
    (h : (lines content).map trim = (lines content').map trim) {r : Rule}
    (hr : r ≠ .hookPlacement) :
    r.diagnose t ⟨path, content⟩ = r.diagnose t ⟨path, content'⟩ := by
  have htrimmed : Source.trimmed ⟨path, content⟩ = Source.trimmed ⟨path, content'⟩ := by
    simp only [Source.trimmed, Source.lines, h]
  rw [← diagnose_trimmed t _ hr, htrimmed, diagnose_trimmed t _ hr]

lemma effectLines_eq_of_trim {ls ls' : List Text} (h : ls.map trim = ls'.map trim) :
    Hook.effectLines ls = Hook.effectLines ls' := by
  rw [← Hook.effectLines_map_trim, h, Hook.effectLines_map_trim]

end ReactLint
