import ReactLint.Block

/-!
# Catch blocks

Whether a position lies inside the body of a `catch`.  The search walks back from the position over
every opening brace that is still open there, and accepts the first one that has the word `catch`
before it on its line and whose block, measured forward from that line, reaches the position's line.
-/

namespace ReactLint

open Text

/-- Whether the word `catch` stands in the text. -/
def namesCatch (t : Text) : Bool := anywhere (·.isWhole "catch") t

/-- Walks back over a reversed text with `depth` closing braces pending.  Returns the braces pending
at its start and, for each opening brace that none of them closes, the reversed text before it. -/
def openBraces : Nat → Text → Nat × List Text
  | depth, [] => (depth, [])
  | depth, c :: cs =>
    if c = '}' then openBraces (depth + 1) cs
    else if c = '{' then
      match depth with
      | depth + 1 => openBraces depth cs
      | 0 =>
        let (pending, found) := openBraces 0 cs
        (pending, cs :: found)
    else openBraces depth cs

/-- The walk over one line's text; a comment line is passed over. -/
def openBracesOn (depth : Nat) (line : Text) : Nat × List Text :=
  if isCommentLine line then (depth, []) else openBraces depth line.reverse

/-- Whether one of the lines `above`, nearest first, opens a `catch` block that reaches the line
`distance` lines below the top of `below`. -/
def catchAbove (depth : Nat) (below : List Text) (distance : Nat) : List Text → Bool
  | [] => false
  | l :: above =>
    let (pending, found) := openBracesOn depth l
    let block := l :: below
    (found.any (fun before => namesCatch before.reverse) &&
        decide (distance + 1 ≤ extent .brace block)) ||
      catchAbove pending block (distance + 1) above

/-- Whether column `column` of line `index` lies inside a `catch` block.  A negative column counts
from the end of the line; a line outside the file lies in no block. -/
def insideCatch (lines : List Text) (index : Int) (column : Int) : Bool :=
  if index < 0 then false
  else match lines.drop index.toNat with
    | [] => false
    | line :: below =>
      let (pending, found) := openBracesOn 0 (upTo column line)
      found.any (fun before => namesCatch before.reverse) ||
        catchAbove pending (line :: below) 0 (lines.take index.toNat).reverse

end ReactLint
