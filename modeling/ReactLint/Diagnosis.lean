import ReactLint.Atomic
import ReactLint.Hook
import ReactLint.Issue

/-!
# Diagnoses

What a rule has found, before it is put into words.  A diagnosis keeps its findings as data; its
category, the lines it lists, where it is anchored and what it says are functions of it.

Numbers are written in full, a limit of more than `maxDigits` digits too: that bound is one on
reading here, though the runtime has it for writing as well.
-/

namespace ReactLint

/-- What a rule has found. -/
inductive Diagnosis where
  | fileSize (lineCount : Nat) (limit : Int)
  | unusedImports (names : List (Located Text))
  | consoleCalls (lines : List Nat) (inCatch : Bool)
  | comments (lines : List Nat)
  | disabledCode (lines : List Nat)
  | reminders (lines : List Nat)
  | longFunctions (functions : List (Located Measured))
  | similarHandlers (handlers : List (Located Text))
  | manyParams (functions : List (Located Measured))
  | tryBlocks (lines : List Nat)
  | misplacedHooks (hooks : List (Located Hook.Misplaced))
  | effectHooks (lines : List Nat)
  | manyStates (states : List (Located Text)) (limit : Int)
  | largeConstants (constants : List (Located Measured)) (limit : Int)
  | scatteredConstants (constants : List (Located Text))
  | manyComponents (components : List (Located Text))
  | longTypes (types : List (Located Text))
  | manyTypes (types : List (Located Text))
  | largeMarkup (blocks : List (Located Nat))
  | atomicDesign (level : AtomicLevel) (fileName : Text)
  | queries (lines : List Nat)
  | fetches (lines : List Nat)

namespace Diagnosis

/-- The category that the diagnosis is reported under. -/
def category : Diagnosis → String
  | fileSize .. => "file-size"
  | unusedImports .. => "unused-import"
  | consoleCalls .. => "console-log"
  | comments .. => "comment"
  | disabledCode .. => "commented-code"
  | reminders .. => "todo-comment"
  | longFunctions .. => "long-function"
  | similarHandlers .. => "repetitive-pattern"
  | manyParams .. => "too-many-params"
  | tryBlocks .. => "duplicate-pattern"
  | misplacedHooks .. => "hook-placement"
  | effectHooks .. => "hook-extraction"
  | manyStates .. => "too-many-states"
  | largeConstants .. => "large-constant"
  | scatteredConstants .. => "scattered-constants"
  | manyComponents .. => "multiple-components"
  | longTypes .. => "inline-type"
  | manyTypes .. => "inline-type"
  | largeMarkup .. => "large-jsx"
  | atomicDesign .. => "atomic-design"
  | queries .. => "supabase-query"
  | fetches .. => "direct-fetch"

/-- Whether the diagnosis is about the file as a whole. -/
def isFileLevel : Diagnosis → Bool
  | fileSize .. | tryBlocks .. | effectHooks .. | scatteredConstants .. | atomicDesign .. => true
  | _ => false

/-- The lines that the diagnosis lists. -/
def lines : Diagnosis → List Nat
  | fileSize .. | atomicDesign .. => []
  | consoleCalls lines _ | comments lines | disabledCode lines | reminders lines
  | tryBlocks lines | effectHooks lines | queries lines | fetches lines => lines
  | unusedImports found | similarHandlers found | manyStates found _ | scatteredConstants found
  | manyComponents found | longTypes found | manyTypes found => found.map Located.line
  | longFunctions found | manyParams found | largeConstants found _ => found.map Located.line
  | misplacedHooks found => found.map Located.line
  | largeMarkup found => found.map Located.line

/-- The lines that the diagnosis is anchored among: the first component of a file is in its
place. -/
def anchors : Diagnosis → List Nat
  | manyComponents found => (found.map Located.line).drop 1
  | d => d.lines

/-! ## Wording -/

/-- The entries of a list in a message. -/
def listed {α : Type} (entry : Located α → String) (found : List (Located α)) : String :=
  ", ".intercalate (found.map entry)

/-- A name and its line. -/
def namedEntry (f : Located Text) : String :=
  let name := String.ofList f.item
  let line := f.line
  s!"`{name}` (L{line})"

/-- A name, its size in the given unit, and its line. -/
def sizedEntry (unit : String) (f : Located Measured) : String :=
  let name := String.ofList f.item.name
  let size := f.item.size
  let line := f.line
  s!"`{name}` ({size} {unit}, L{line})"

/-- A misplaced hook, its line, and the name it should have. -/
def hookEntry (f : Located Hook.Misplaced) : String :=
  let entry := namedEntry ⟨f.line, f.item.name⟩
  match f.item.rename with
  | none => entry
  | some rename =>
    let name := String.ofList rename
    s!"{entry} → rename to `{name}`"

/-- A line and the number of lines from there. -/
def blockEntry (f : Located Nat) : String :=
  let size := f.item
  let line := f.line
  s!"L{line} ({size} lines)"

/-- The lines from the first finding to the last. -/
def lineRange {α : Type} (found : List (Located α)) : String :=
  let first := (found.head?.map Located.line).getD 0
  let last := (found.getLast?.map Located.line).getD 0
  if first = last then s!"L{first}" else s!"L{first}–L{last}"

/-- The advice on console calls. -/
def consoleAdvice (inCatch : Bool) : String :=
  "Remove `console.*` calls before merging." ++
    if inCatch then " In `catch` blocks, use **toast.error()** to give the user feedback." else ""

/-- What the diagnosis says. -/
def message : Diagnosis → String
  | fileSize count limit =>
    s!"📏 **File has {count} lines** — the limit is {limit}. " ++
      "Split it into smaller components, hooks and utilities."
  | unusedImports found =>
    let range := lineRange found
    let names := listed namedEntry found
    s!"🧹 **Unused imports ({range})**: {names}\n\n" ++
      "Remove them before merging. In VS Code: `Ctrl+Shift+P → Organize Imports`."
  | consoleCalls lines inCatch =>
    let count := lines.length
    let refs := lineRefs lines
    let advice := consoleAdvice inCatch
    s!"🧹 **{count} console call(s) detected** — {refs}\n\n{advice}"
  | comments lines =>
    let count := lines.length
    let refs := lineRefs lines
    s!"💬 **{count} comment(s) in the code** — Lines: {refs}\n\n" ++
      "Prefer self-documenting code. Remove unnecessary comments before merging."
  | disabledCode lines =>
    let refs := lineRefs lines
    s!"🗑️ **Commented-out code** — Lines: {refs}\n\n" ++
      "Delete commented-out code before merging. Git keeps the history if you need it back."
  | reminders lines =>
    let refs := lineRefs lines
    s!"🏷️ **TODO/FIXME found** — Lines: {refs}\n\n" ++
      "Resolve it before merging, or open an issue so it is not lost."
  | longFunctions found =>
    let entries := listed (sizedEntry "lines") found
    s!"📐 **Long function(s)**: {entries}\n\n" ++
      "Split them into smaller functions. Extract validation, transformations and API calls."
  | similarHandlers found =>
    let names := listed namedEntry found
    s!"🔄 **Repetitive pattern**: {names} share similar logic. " ++
      "Abstract it into a custom hook or a generic function."
  | manyParams found =>
    let entries := listed (sizedEntry "params") found
    s!"📐 **Too many parameters**: {entries}\n\n" ++
      "Pass a single options object instead of several parameters."
  | tryBlocks lines =>
    let count := lines.length
    let refs := lineRefs lines
    s!"🔄 **{count} try/catch blocks** ({refs}) — " ++
      "Consider a `safeExecute()` helper that wraps error handling and toast feedback."
  | misplacedHooks found =>
    let entries := listed hookEntry found
    s!"🪝 **Hook(s) outside /hooks**: {entries}\n\n" ++
      "Move them to the `/hooks` folder so they are easy to find and reuse."
  | effectHooks lines =>
    let count := lines.length
    let refs := lineRefs lines
    s!"🪝 **{count} effect/memo hooks** ({refs}) — Extract the logic into custom hooks. " ++
      "E.g. `const { data, loading } = useMyFeature()`"
  | manyStates found limit =>
    let count := found.length
    let names := listed namedEntry found
    s!"🧠 **{count} useState**: {names}\n\n" ++
      s!"Extract them into a custom hook or use `useReducer`. Recommended maximum: {limit}."
  | largeConstants found limit =>
    let entries := listed (sizedEntry "lines") found
    s!"📦 **Large constant(s)**: {entries}\n\n" ++
      "Move them to their own file in `/consts`. " ++
      s!"Constants longer than {limit} lines deserve a dedicated file."
  | scatteredConstants found =>
    let count := found.length
    let names := listed namedEntry found
    s!"📦 **{count} scattered constants**: {names}. Centralize them in `/consts`."
  | manyComponents found =>
    let count := found.length
    let names := listed namedEntry found
    s!"🧩 **{count} components in the same file**: {names}\n\n" ++
      "Give each component its own file. In Atomic Design: 1 file = 1 component."
  | longTypes found =>
    let names := listed namedEntry found
    s!"📐 **Inline types/interfaces**: {names}\n\n" ++
      "Move them to `/interfaces` or `/types`. " ++
      "That makes them reusable and avoids circular imports."
  | manyTypes found =>
    let count := found.length
    let names := listed namedEntry found
    s!"📐 **{count} types/interfaces in the component**: {names}. Move them to `/interfaces`."
  | largeMarkup found =>
    let entries := listed blockEntry found
    s!"🧩 **Large JSX block(s)**: {entries} — Extract sections into subcomponents " ++
      "(atoms, molecules). Each subcomponent should fit on one screen."
  | atomicDesign level fileName =>
    let folder := level.folder
    let name := String.ofList fileName
    s!"🏗️ **Atomic Design** — This component belongs in `components/{folder}/{name}`."
  | queries lines =>
    let refs := lineRefs lines
    s!"🗄️ **Supabase query in a component** — {refs}\n\n" ++
      "Move queries to functions in `@/lib/supabase` or to a custom hook. " ++
      "Components should not hold database logic."
  | fetches lines =>
    let refs := lineRefs lines
    s!"🌐 **Direct fetch in a component** — {refs}\n\n" ++
      "Centralize API calls in `@/lib/api` or a custom hook in `@/hooks`. " ++
      "Consider React Query/SWR for caching."

/-- The issue that reports the diagnosis, none when it lists nothing. -/
def issues (d : Diagnosis) : List Issue :=
  if d.isFileLevel then fileIssue d.category d.message .warn
  else consolidate (d.anchors.map Int.ofNat) d.category d.message .warn false

end Diagnosis

end ReactLint
