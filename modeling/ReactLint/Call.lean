import ReactLint.Block.Catch
import ReactLint.Source

/-!
# Calls that a rule looks for

Console calls, database queries and direct fetches.  A comment line holds none of them.
-/

namespace ReactLint

open Text

/-- The console methods that are reported. -/
def consoleMethods : List String := ["log", "warn", "info", "debug", "error", "trace"]

/-- Whether a console method is named here. -/
def isConsoleCall (p : Place) : Bool :=
  (p.word? "console.").any fun t => consoleMethods.any fun m => (skip? m t).any endsWord

/-- The column of the first console call on a line. -/
def consoleColumn? (line : Text) : Option Nat := (places line).findIdx? isConsoleCall

/-- The console calls of the lines `below`, numbered from `n`, each with whether it lies in a
`catch` block.  The lines `above` are those before, nearest first. -/
def consoleCallsFrom (above : List Text) (n : Nat) : List Text → List (Located Bool)
  | [] => []
  | l :: ls =>
    let found := if isCommentLine l then none else consoleColumn? l
    (found.toList.map fun column =>
        ⟨n, insideCatch (above.reverse ++ l :: ls) above.length column⟩) ++
      consoleCallsFrom (l :: above) (n + 1) ls

/-- The console calls of a file, the first of each line, each with whether it lies in a `catch`
block. -/
def consoleCalls (lines : List Text) : List (Located Bool) := consoleCallsFrom [] 1 lines

/-- Whether a table of the database is queried here. -/
def isQuery (p : Place) : Bool :=
  (do
    let t ← skip? "supabase" p.rest
    let t ← blanksThen? "." t
    let t ← blanksThen? "from(" t
    let (_, t) ← run? isWord (← oneOf? isQuote (trimStart t))
    blanksThen? ")" (← oneOf? isQuote t)).isSome

/-- Whether a fetch is called here. -/
def isFetch (p : Place) : Bool := (p.word? "fetch(").isSome

/-- The lines, comment lines apart, on which the construct stands. -/
def linesWith (construct : Place → Bool) (lines : List Text) : List Nat :=
  (locateOn (fun l => if !isCommentLine l && anywhere construct l then some () else none) lines).map
    Located.line

end ReactLint
