import ReactLint.Block
import ReactLint.Source
import ReactLint.Text.Case

/-!
# Hooks

A hook is a function whose name is `use` and a capital.  This file finds hooks declared at the left
margin, functions there that call hooks without being named as one, and the calls of the effect,
memo and state hooks.
-/

namespace ReactLint

open Text

namespace Hook

/-- Whether a name is that of a hook. -/
def isHookName (name : Text) : Bool := (skip? "use" name).any fun t => t.head?.any isCapital

/-- The hook name for a function: `use` and the name with its first letter raised. -/
def nameFor (name : Text) : Text := "use".toList ++ upper (name.take 1) ++ name.drop 1

/-- The name that a line declares at the left margin. -/
def declaredName? (line : Text) : Option Text :=
  ((keywordAny? ["const", "function"]
    (optionalKeyword "async" (optionalKeyword "default" (optionalKeyword "export" line)))).bind
      identifier?).map Prod.fst

/-- Whether a hook is called here. -/
def isHookCall (p : Place) : Bool :=
  ((p.word? "use").bind (oneOf? isCapital)).any fun t =>
    (blanksThen? "(" (t.dropWhile isWord)).isSome

/-- A declaration that belongs among the hooks: a hook, or a function that calls one and then has a
hook name to take. -/
structure Misplaced where
  name : Text
  rename : Option Text
  deriving DecidableEq, Repr

/-- The misplaced declaration on the line `l`, followed by the lines `ls`.  A capital name is a
component's, which may call hooks. -/
def misplaced? (l : Text) (ls : List Text) : Option Misplaced :=
  (declaredName? l).bind fun name =>
    if isHookName name then some ⟨name, none⟩
    else if name.head?.any isUpperLetter then none
    else if anywhere isHookCall (unlines (blockLines .braceOrParen l ls)) then
      some ⟨name, some (nameFor name)⟩
    else none

/-- The misplaced declarations of a file. -/
def misplaced (lines : List Text) : List (Located Misplaced) :=
  locate (fun l ls => (misplaced? l ls).toList) lines

/-- Whether one of the named hooks is called here. -/
def isCallOf (names : List String) (p : Place) : Bool :=
  names.any fun w => ((p.word? w).bind (blanksThen? "(")).isSome

/-- The lines of the effect and memo hook calls, each as often as it has calls. -/
def effectLines (lines : List Text) : List Nat :=
  (locate (fun l _ => List.replicate
    (countPlaces (isCallOf ["useEffect", "useCallback", "useMemo"]) l) ()) lines).map Located.line

/-- Whether the state hook is invoked here, with or without a type argument. -/
def isStateCall (p : Place) : Bool :=
  (p.word? "useState").any fun t =>
    endsWord t && (trimStart t).head?.any fun c => c == '<' || c == '('

/-- The first name bound by a destructuring on the line. -/
def stateName? (line : Text) : Option Text :=
  search? (fun p => ((skip? "const" p.rest).bind (blanksThen? "[")).bind fun t =>
    (identifier? (trimStart t)).map Prod.fst) line

/-- The state hook calls of a file, each with the first name bound on its line. -/
def states (lines : List Text) : List (Located Text) :=
  locate (fun l _ => List.replicate (countPlaces isStateCall l)
    ((stateName? l).getD "state".toList)) lines

end Hook

end ReactLint
