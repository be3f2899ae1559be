import ReactLint.Call
import ReactLint.Comment.Scan
import ReactLint.Cover
import ReactLint.Declaration
import ReactLint.Diagnosis
import ReactLint.Function
import ReactLint.Import
import ReactLint.Path
import ReactLint.Thresholds

/-!
# Rules

The rules of the linter.  A rule reads a source under the thresholds and says what it has found;
most rules have a single diagnosis to make, some have up to three.  Which folders a rule leaves
alone is decided by the source's path.
-/

namespace ReactLint

open Text

/-- The rules by name. -/
inductive Rule where
  | fileSize
  | unusedImports
  | consoleCalls
  | comments
  | functions
  | tryBlocks
  | hookPlacement
  | stateCount
  | constants
  | components
  | inlineTypes
  | markupSize
  | atomicDesign
  | queries
  | fetches
  deriving DecidableEq, Repr

namespace Rule

/-- All rules, in the order in which they are run. -/
def all : List Rule :=
  [fileSize, unusedImports, consoleCalls, comments, functions, tryBlocks, hookPlacement, stateCount,
    constants, components, inlineTypes, markupSize, atomicDesign, queries, fetches]

/-- The name that the log and the command of a single rule use. -/
def name : Rule → String
  | fileSize => "check_file_size"
  | unusedImports => "check_unused_imports"
  | consoleCalls => "check_console_logs"
  | comments => "check_comments"
  | functions => "check_functions"
  | tryBlocks => "check_duplicate_patterns"
  | hookPlacement => "check_hooks_placement"
  | stateCount => "check_state_count"
  | constants => "check_large_constants"
  | components => "check_multiple_components"
  | inlineTypes => "check_inline_types"
  | markupSize => "check_jsx_size"
  | atomicDesign => "check_atomic_design"
  | queries => "check_supabase_queries"
  | fetches => "check_direct_fetch"

/-- The rule of this name. -/
def ofName? (name : String) : Option Rule := all.find? fun r => r.name == name

@[simp] theorem ofName?_name (r : Rule) : ofName? r.name = some r := by
  cases r <;> decide

/-! ## Diagnoses of each rule -/

/-- The names of what was measured. -/
def namesOf (found : List (Located Measured)) : List (Located Text) :=
  found.map fun f => ⟨f.line, f.item.name⟩

/-- A file with more lines than the limit. -/
def diagnoseFileSize (t : Thresholds) (s : Source) : List Diagnosis :=
  if (s.lineCount : Int) ≤ t.fileLines then [] else [.fileSize s.lineCount t.fileLines]

/-- Imported names that are not used. -/
def diagnoseImports (s : Source) : List Diagnosis := [.unusedImports (Import.unused s.lines)]

/-- Console calls. -/
def diagnoseConsole (s : Source) : List Diagnosis :=
  let calls := ReactLint.consoleCalls s.lines
  [.consoleCalls (calls.map Located.line) (calls.any Located.item)]

/-- Comments, disabled code and reminders. -/
def diagnoseComments (s : Source) : List Diagnosis :=
  let found := Comment.scan s.lines
  [.comments (Comment.linesOf Comment.Kind.isProse found),
    .disabledCode (Comment.linesOf (· == .disabledCode) found),
    .reminders (Comment.linesOf (· == .reminder) found)]

/-- Functions with more lines than the limit. -/
def longFunctions (t : Thresholds) (fs : List (Located FunctionBlock)) : List (Located Measured) :=
  (fs.filter fun f => t.functionLines < (f.item.length : Int)).map fun f =>
    ⟨f.line, f.item.name, f.item.length⟩

/-- The event handlers, when there are three at least and two of them set state from remote
data. -/
def similarHandlers (fs : List (Located FunctionBlock)) : List (Located Text) :=
  let handlers := fs.filter fun f => FunctionBlock.isHandlerName f.item.name
  if 3 ≤ handlers.length && 2 ≤ handlers.countP fun f => f.item.setsFromRemote then
    handlers.map fun f => ⟨f.line, f.item.name⟩
  else []

/-- Functions with more parameters than the limit. -/
def manyParams (t : Thresholds) (fs : List (Located FunctionBlock)) : List (Located Measured) :=
  (fs.map fun f => (⟨f.line, f.item.name, paramCount f.item.header⟩ : Located Measured)).filter
    fun f => t.params < (f.item.size : Int)

/-- Functions that are too long, too alike or take too much. -/
def diagnoseFunctions (t : Thresholds) (s : Source) : List Diagnosis :=
  let fs := FunctionBlock.collect s.lines
  [.longFunctions (longFunctions t fs), .similarHandlers (similarHandlers fs),
    .manyParams (manyParams t fs)]

/-- Three or more `try` blocks that are not nested. -/
def diagnoseTry (s : Source) : List Diagnosis :=
  let blocks := ReactLint.tryBlocks s.lines
  if blocks.length < 3 then [] else [.tryBlocks (blocks.map Located.line)]

/-- Hooks outside their folder, and a component with more than three effect and memo hooks. -/
def diagnoseHooks (s : Source) : List Diagnosis :=
  if inFolder s.path "hooks" then []
  else
    let effects := Hook.effectLines s.lines
    .misplacedHooks (Hook.misplaced s.lines) ::
      if isComponentFile s.path && 3 < effects.length then [.effectHooks effects] else []

/-- A component with more state hooks than the limit. -/
def diagnoseStates (t : Thresholds) (s : Source) : List Diagnosis :=
  let states := Hook.states s.lines
  if isComponentFile s.path && t.stateHooks < (states.length : Int) then
    [.manyStates states t.stateHooks]
  else []

/-- Constants that are too long or, when none is, three or more of them in one file. -/
def diagnoseConstants (t : Thresholds) (s : Source) : List Diagnosis :=
  if inFolder s.path "consts" || inFolder s.path "constants" then []
  else
    let large :=
      (Declaration.constants s.lines).filter fun c => t.constantLines < (c.item.size : Int)
    let plain := Declaration.plainConstants s.lines
    if !large.isEmpty then [.largeConstants large t.constantLines]
    else if plain.length < 3 then [] else [.scatteredConstants plain]

/-- More than one component in a component file. -/
def diagnoseComponents (s : Source) : List Diagnosis :=
  let found := Declaration.components s.lines
  if isComponentFile s.path && 1 < found.length then [.manyComponents found] else []

/-- Whether types are at home in the file. -/
def isTypeFile (path : Text) : Bool :=
  inFolder path "types" || inFolder path "interfaces" ||
    endsIn ".types.ts" (withSlashes path) || endsIn ".d.ts" (withSlashes path)

/-- Types of more than five lines or, when there is none, three or more types in a component. -/
def diagnoseTypes (s : Source) : List Diagnosis :=
  if isTypeFile s.path then []
  else
    let types := Declaration.types s.lines
    let long := types.filter fun f => 5 < f.item.size
    if !long.isEmpty then [.longTypes (namesOf long)]
    else if 3 ≤ types.length && isComponentFile s.path then [.manyTypes (namesOf types)] else []

/-- Blocks of returned markup with more lines than the limit. -/
def diagnoseMarkup (t : Thresholds) (s : Source) : List Diagnosis :=
  if isComponentFile s.path then
    [.largeMarkup ((markupBlocks s.lines).filter fun b => t.markupLines < (b.item : Int))]
  else []

/-- A component that stands directly in `components`. -/
def diagnoseAtomic (s : Source) : List Diagnosis :=
  if isComponentFile s.path && isDirectComponent s.path && !inFolder s.path "ui" then
    [.atomicDesign (.suggest s.content) (fileNameOf s.path)]
  else []

/-- Whether the file is one that should leave data access to others. -/
def avoidsDataAccess (path : Text) : Bool :=
  endsIn ".tsx" (withSlashes path) && !inFolder path "lib"

/-- Database queries in a component. -/
def diagnoseQueries (s : Source) : List Diagnosis :=
  if avoidsDataAccess s.path then [.queries (linesWith isQuery s.lines)] else []

/-- Fetches in a component. -/
def diagnoseFetches (s : Source) : List Diagnosis :=
  if avoidsDataAccess s.path then [.fetches (linesWith isFetch s.lines)] else []

/-- What a rule has found in a source. -/
def diagnose (t : Thresholds) (s : Source) : Rule → List Diagnosis
  | fileSize => diagnoseFileSize t s
  | unusedImports => diagnoseImports s
  | consoleCalls => diagnoseConsole s
  | comments => diagnoseComments s
  | functions => diagnoseFunctions t s
  | tryBlocks => diagnoseTry s
  | hookPlacement => diagnoseHooks s
  | stateCount => diagnoseStates t s
  | constants => diagnoseConstants t s
  | components => diagnoseComponents s
  | inlineTypes => diagnoseTypes s
  | markupSize => diagnoseMarkup t s
  | atomicDesign => diagnoseAtomic s
  | queries => diagnoseQueries s
  | fetches => diagnoseFetches s

/-- The issues that a rule reports on a source. -/
def check (r : Rule) (t : Thresholds) (s : Source) : List Issue :=
  (r.diagnose t s).flatMap Diagnosis.issues

end Rule

end ReactLint
