import ReactLint.Block
import ReactLint.Source

/-!
# Disjoint blocks

Blocks of one kind that are visited from the top: after a block the search goes on below its last
line, so a block inside another is not visited.  The blocks visited are the greedy cover of the
lines where such a block starts.
-/

namespace ReactLint

open Text

/-- The lengths of the blocks visited among the lines numbered from `n`, the first `skip` of which
belong to the block visited last. -/
def coverFrom (isStart : Text → Bool) (d : Delimiter) (n skip : Nat) :
    List Text → List (Located Nat)
  | [] => []
  | l :: ls =>
    match skip with
    | skip + 1 => coverFrom isStart d (n + 1) skip ls
    | 0 =>
      if isStart l then
        let rest := extent d (l :: ls)
        ⟨n, rest + 1⟩ :: coverFrom isStart d (n + 1) rest ls
      else coverFrom isStart d (n + 1) 0 ls

/-- The blocks of one kind, each with its number of lines. -/
def cover (isStart : Text → Bool) (d : Delimiter) (lines : List Text) : List (Located Nat) :=
  coverFrom isStart d 1 0 lines

/-- Whether a `try` block opens on the line. -/
def opensTry (line : Text) : Bool :=
  anywhere (fun p => ((p.word? "try").bind (blanksThen? openBrace)).isSome) line

/-- The outermost `try` blocks. -/
def tryBlocks (lines : List Text) : List (Located Nat) := cover opensTry .brace lines

/-- Whether the line returns something in parentheses. -/
def returnsMarkup (line : Text) : Bool :=
  ((skip? "return" (trimStart line)).bind (blanksThen? "(")).isSome

/-- The outermost blocks of returned markup. -/
def markupBlocks (lines : List Text) : List (Located Nat) := cover returnsMarkup .paren lines

end ReactLint
