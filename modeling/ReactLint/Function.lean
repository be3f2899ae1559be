import ReactLint.Block
import ReactLint.Source
import ReactLint.Text.Fold

/-!
# Functions

Function declarations and arrow functions bound to a name, each with the lines of its block.  An
arrow function counts only when its header line ends in the arrow or in the brace after it.
-/

namespace ReactLint

open Text

/-- A function: its name, its header line and the lines of its block, header included. -/
structure FunctionBlock where
  name : Text
  header : Text
  lines : List Text
  deriving DecidableEq, Repr

/-- The number of lines of the function. -/
def FunctionBlock.length (f : FunctionBlock) : Nat := f.lines.length

namespace FunctionBlock

/-- The name of an identifier that an opening parenthesis follows. -/
def calledName? (t : Text) : Option Text :=
  (identifier? t).bind fun (name, rest) => (blanksThen? "(" rest).map fun _ => name

/-- The name that a trimmed line binds to something in parentheses. -/
def arrowName? (t : Text) : Option Text := do
  let t ← keywordAny? ["const", "let"] (optionalKeyword "export" t)
  let (name, t) ← identifier? t
  let t := trimStart (← blanksThen? "=" t)
  let t := ((skip? "async" t).map trimStart).getD t
  if starts "(" t then some name else none

/-- Whether only an opening brace, if anything, stands in the text. -/
def isBraceOrNothing (t : Text) : Bool :=
  let t := trimStart t
  isBlankText ((skip? openBrace t).getD t)

/-- Whether the line ends in an arrow, or in an arrow and an opening brace. -/
def endsInArrow (t : Text) : Bool :=
  anywhere (fun p => (skip? "=>" p.rest).any isBraceOrNothing) t

/-- The name that a trimmed line declares as a function. -/
def declaredName? (t : Text) : Option Text :=
  (keyword? "function"
    (optionalKeyword "async" (optionalKeyword "default" (optionalKeyword "export" t)))).bind
      calledName?

/-- The name of the function whose header a line is. -/
def headerName? (line : Text) : Option Text :=
  let t := trim line
  (if endsInArrow t then arrowName? t else none).or (declaredName? t)

/-- The function whose header is `l`, followed by the lines `ls`. -/
def startingAt? (l : Text) (ls : List Text) : Option FunctionBlock :=
  (headerName? l).map fun name => ⟨name, l, blockLines .braceOrParen l ls⟩

/-- The functions of a file. -/
def collect (lines : List Text) : List (Located FunctionBlock) :=
  locate (fun l ls => (startingAt? l ls).toList) lines

end FunctionBlock

/-- The number of entries that are not blank in the first parameter list on a line. -/
def paramCount (line : Text) : Nat :=
  match skip? "(" (line.dropWhile (· != '(')) with
  | none => 0
  | some t =>
    if t.contains ')' then
      ((t.takeWhile (· != ')')).splitOn ',').countP fun p => !isBlankText p
    else 0

namespace FunctionBlock

/-- Whether a name is that of an event handler: `handle` or `on` and a capital. -/
def isHandlerName (name : Text) : Bool :=
  ["handle", "on"].any fun w => (skip? w name).any fun t => t.head?.any isCapital

/-- Whether the text calls a state setter. -/
def callsSetter (t : Text) : Bool :=
  anywhere (fun p => ((skip? "set" p.rest).bind (run? isWord)).any fun (_, t) => starts "(" t) t

/-- Whether the text mentions remote data, whatever the case of the letters. -/
def mentionsRemote (t : Text) : Bool :=
  anywhere (fun p => ["fetch", "supabase", "axios", "api"].any fun w =>
    (skipFolded? w p.rest).isSome) t

/-- Whether the function both sets state and reaches for remote data. -/
def setsFromRemote (f : FunctionBlock) : Bool :=
  let body := unlines f.lines
  callsSetter body && mentionsRemote body

end FunctionBlock

end ReactLint
