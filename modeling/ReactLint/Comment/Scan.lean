import ReactLint.Comment.DisabledCode
import ReactLint.Comment.Literal
import ReactLint.Source
import ReactLint.Text.Fold

/-!
# Comments

The comments of a file, found by an automaton that reads one line at a time.  Its states say
whether a line starts in code, inside a plain block comment or inside a documentation comment.

A directive for a tool and a `use client` or `use server` line are no comments.  They are passed
over before anything else is looked at, so inside a plain block they do not end it.  Documentation
comments are allowed; every other comment is recorded once, on the line where it starts.
-/

namespace ReactLint

open Text

namespace Comment

/-- How a comment is written. -/
inductive Form where
  | block
  | line
  | inline
  deriving DecidableEq, Repr

/-- What a comment is recorded as. -/
inductive Kind where
  | prose (form : Form)
  | disabledCode
  | reminder
  deriving DecidableEq, Repr

/-- Where a line starts. -/
inductive State where
  | code
  | block
  | documentation
  deriving DecidableEq, Repr

/-- Whether the line is a comment that speaks to a tool. -/
def isToolDirective (line : Text) : Bool :=
  ((skip? "/" (trimStart line)).bind (oneOf? fun c => c == '/' || c == '*')).any fun t =>
    (skipAny? ["eslint", "@ts-", "prettier", "istanbul", "c8", "vitest", "jest"]
      (trimStart t)).isSome

/-- Whether the trimmed line opens with a `use client` or `use server` literal. -/
def isUseDirective (trimmed : Text) : Bool :=
  ((oneOf? isQuote trimmed).bind fun t => (skip? "use " t).bind (skipAny? ["client", "server"])).any
    fun t => t.head?.any isQuote

/-- The words that mark a reminder. -/
def reminderWords : List String := ["todo", "fixme", "hack", "xxx", "bug", "note"]

/-- Whether a `//` comment starts with a word that marks a reminder. -/
def isReminder (t : Text) : Bool :=
  (blanksThen? "//" t).any fun t =>
    reminderWords.any fun w => (skipFolded? w (trimStart t)).any endsWord

/-- Whether a comment starts at the `//` at position `pos`: it follows code, no colon stands right
before it, it is outside literals, and it says something. -/
def startsInlineAt (line : Text) (pos : Nat) : Bool :=
  let before := line.take pos
  !isBlankText before && before.getLast? != some ':' && !insideLiteral line pos &&
    !isBlankText (line.drop (pos + 2))

/-- The first position from `pos` on at which a comment follows code, `rest` being the line from
`pos` on.  Two slashes that start none are passed over together. -/
def inlineStartFrom (line : Text) (pos : Nat) : Text → Option Nat
  | '/' :: '/' :: rest =>
    if startsInlineAt line pos then some pos else inlineStartFrom line (pos + 2) rest
  | _ :: rest => inlineStartFrom line (pos + 1) rest
  | [] => none

/-- The position of a comment that follows code on its line. -/
def inlineStart? (line : Text) : Option Nat := inlineStartFrom line 0 line

/-- What follows the first `/*`. -/
def afterBlockOpening? (t : Text) : Option Text := search? (fun p => skip? "/*" p.rest) t

/-- How a line that starts in code reads on: the state of the next line and the comment recorded
here. -/
def readCode (line : Text) : State × Option Kind :=
  let t := trim line
  if starts "/**" t then
    (if mentions "*/" line then .code else .documentation, none)
  else match (if mentions "/**" t then none else afterBlockOpening? t) with
    | some rest => (if mentions "*/" rest then .code else .block, some (.prose .block))
    | none =>
      if starts "//" t then
        if DisabledCode.isDisabledCode line then (.code, some .disabledCode)
        else if isReminder t then (.code, some .reminder)
        else (.code, some (.prose .line))
      else match inlineStart? line with
        | some pos =>
          if isReminder (line.drop pos) then (.code, some .reminder)
          else (.code, some (.prose .inline))
        | none => (.code, none)

/-- Whether a line outside documentation is passed over. -/
def isDirective (line : Text) : Bool := isToolDirective line || isUseDirective (trim line)

/-- One step of the automaton. -/
def step (state : State) (line : Text) : State × Option Kind :=
  match state with
  | .documentation => (if mentions "*/" line then .code else .documentation, none)
  | .block =>
    if isDirective line then (.block, none)
    else (if mentions "*/" line then .code else .block, none)
  | .code => if isDirective line then (.code, none) else readCode line

/-- The state after the lines. -/
def stateAfter (state : State) (lines : List Text) : State :=
  lines.foldl (fun s l => (step s l).1) state

/-- The comments recorded on the lines, numbered from `n`. -/
def scanFrom (state : State) (n : Nat) : List Text → List (Located Kind)
  | [] => []
  | l :: ls =>
    let (next, found) := step state l
    (found.toList.map fun kind => ⟨n, kind⟩) ++ scanFrom next (n + 1) ls

/-- Scanning lines in two parts: the second part goes on from the state that the first ends in. -/
theorem scanFrom_append (state : State) (n : Nat) (a b : List Text) :
    scanFrom state n (a ++ b)
      = scanFrom state n a ++ scanFrom (stateAfter state a) (n + a.length) b := by
  induction a generalizing state n with
  | nil => simp [scanFrom, stateAfter]
  | cons l a ih =>
    have hlength : n + 1 + a.length = n + (l :: a).length := by simp; omega
    simp [scanFrom, ih, stateAfter, hlength]

/-- The comments of a file. -/
def scan (lines : List Text) : List (Located Kind) := scanFrom .code 1 lines

/-- The lines of the comments that `keep` accepts. -/
def linesOf (keep : Kind → Bool) (found : List (Located Kind)) : List Nat :=
  (found.filter fun f => keep f.item).map Located.line

/-- Whether a comment is recorded as prose. -/
def Kind.isProse : Kind → Bool
  | .prose _ => true
  | _ => false

end Comment

end ReactLint
