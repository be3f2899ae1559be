import ReactLint.Text.Scan

/-!
# String literals

Whether a position of a line is inside a quoted literal.  A quotation mark, single, double or
backtick, toggles the literal it opens; one directly after a backslash is passed over, whatever
stands before that backslash.
-/

namespace ReactLint

open Text

/-- The marks that enclose a literal. -/
def isLiteralMark (c : Char) : Bool := c == '"' || c == '\'' || c == '`'

/-- The open mark after the character `c` that follows `before`. -/
def markStep (before : Option Char) (mark : Option Char) (c : Char) : Option Char :=
  if isLiteralMark c && before != some '\\' then
    match mark with
    | none => some c
    | some m => if c = m then none else some m
  else mark

/-- The mark still open at the end of a text that follows the character `before` inside a literal
with the given mark. -/
def openMark (before : Option Char) (mark : Option Char) : Text → Option Char
  | [] => mark
  | c :: cs => openMark (some c) (markStep before mark c) cs

/-- Reading a text in two parts: the second part starts with the mark that the first leaves open. -/
theorem openMark_append (before mark : Option Char) (s t : Text) :
    openMark before mark (s ++ t)
      = openMark (s.getLast?.or before) (openMark before mark s) t := by
  induction s generalizing before mark with
  | nil => simp [openMark]
  | cons c s ih =>
    rw [List.cons_append, openMark, openMark, ih]
    cases s <;> simp [List.getLast?_cons]

/-- Whether a literal is open just after the character at position `pos`; never outside the
line. -/
def insideLiteral (line : Text) (pos : Int) : Bool :=
  if pos < 0 || line.length ≤ pos then false
  else (openMark none none (line.take (pos.toNat + 1))).isSome

end ReactLint
