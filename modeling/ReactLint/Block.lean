import ReactLint.Text.Scan

/-!
# Blocks

A block starts on the line that opens a delimiter and ends on the line that closes it.  Delimiters
are counted character by character, in string literals as elsewhere; only a line that is nothing
but a comment counts for nothing.

**Depth.**  On the first line of a block a closing delimiter that closes nothing is passed over, so
that `} else {` opens one level (`openDepth`).  Every later line counts with its net `balance`.

**Extent.**  `extent` is the number of lines a block has after its first.  It reads only the lines
from the block's first on, so lines in front of a block never matter, and lines behind it matter
only while it is open.
-/

namespace ReactLint

open Text

/-- Which delimiters a block is measured by. -/
inductive Delimiter where
  /-- Braces and parentheses, counted together. -/
  | braceOrParen
  | brace
  | paren
  | bracket
  deriving DecidableEq, Repr

namespace Delimiter

/-- The opening characters. -/
def isOpen : Delimiter → Char → Bool
  | braceOrParen, c => c == '{' || c == '('
  | brace, c => c == '{'
  | paren, c => c == '('
  | bracket, c => c == '['

/-- The closing characters. -/
def isClose : Delimiter → Char → Bool
  | braceOrParen, c => c == '}' || c == ')'
  | brace, c => c == '}'
  | paren, c => c == ')'
  | bracket, c => c == ']'

/-- The delimiter that a character opens. -/
def ofOpening? : Char → Option Delimiter
  | '{' => some brace
  | '(' => some paren
  | '[' => some bracket
  | _ => none

/-- The opening character of a delimiter that has one only. -/
def opening? : Delimiter → Option Char
  | braceOrParen => none
  | brace => some '{'
  | paren => some '('
  | bracket => some '['

/-- The delimiter opened first on a line. -/
def firstOn? (line : Text) : Option Delimiter := line.findSome? ofOpening?

end Delimiter

/-- Whether a line is nothing but a comment, or a line inside one. -/
def isCommentLine (line : Text) : Bool :=
  let t := trim line
  starts "//" t || starts "/*" t || starts "*" t

/-- What one character adds to the depth. -/
def Delimiter.weight (d : Delimiter) (c : Char) : Int :=
  if d.isOpen c then 1 else if d.isClose c then -1 else 0

/-- Opening minus closing delimiters of a line; zero for a comment line. -/
def balance (d : Delimiter) (line : Text) : Int :=
  if isCommentLine line then 0 else line.foldr (fun c n => d.weight c + n) 0

/-- The depth after one more character, never below zero. -/
def Delimiter.clampedStep (d : Delimiter) (depth : Nat) (c : Char) : Nat :=
  if d.isOpen c then depth + 1 else if d.isClose c then depth - 1 else depth

/-- How deep a block's first line goes, closing delimiters that close nothing passed over. -/
def openDepth (d : Delimiter) (line : Text) : Nat :=
  if isCommentLine line then 0 else line.foldl d.clampedStep 0

/-- How many of the lines a block open at `depth` still takes: up to the first that brings the
depth to zero or below, or all of them. -/
def closingExtent (d : Delimiter) (depth : Int) : List Text → Nat
  | [] => 0
  | l :: ls =>
    let depth := depth + balance d l
    if depth ≤ 0 then 1 else closingExtent d depth ls + 1

/-- How many lines the block that starts on the first of the lines has after it. -/
def extent (d : Delimiter) : List Text → Nat
  | [] => 0
  | l :: ls =>
    let depth := openDepth d l
    if depth = 0 then 0 else closingExtent d depth ls

/-- A block never takes more lines than there are. -/
theorem closingExtent_le (d : Delimiter) (depth : Int) (ls : List Text) :
    closingExtent d depth ls ≤ ls.length := by
  induction ls generalizing depth with
  | nil => simp [closingExtent]
  | cons l ls ih =>
    rw [closingExtent]
    split
    · simp
    · simpa using ih _

/-- A block ends inside the lines that it starts in. -/
theorem extent_lt (d : Delimiter) {ls : List Text} (h : ls ≠ []) : extent d ls < ls.length := by
  cases ls with
  | nil => exact absurd rfl h
  | cons l ls =>
    rw [extent, List.length_cons]
    split
    · omega
    · have := closingExtent_le d (openDepth d l) ls
      omega

/-- The index of the last line of the block that starts on line `start`.  An index outside the
lines counts as the nearest one inside. -/
def blockEnd (d : Delimiter) (lines : List Text) (start : Int) : Nat :=
  let first := min start.toNat (lines.length - 1)
  first + extent d (lines.drop first)

/-- The lines of the block that starts on the line `l`, followed by `ls`. -/
def blockLines (d : Delimiter) (l : Text) (ls : List Text) : List Text :=
  (l :: ls).take (extent d (l :: ls) + 1)

end ReactLint
