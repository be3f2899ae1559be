import ReactLint.Text.Basic

/-!
# Blanks

A *blank* is a character that separates tokens: the ASCII controls from tab to carriage return and
from file separator to unit separator, the space, and the separators of other scripts.  Line feed
and carriage return are blanks; the zero-width space and the byte order mark are not.
-/

namespace ReactLint.Text

/-- A separating character. -/
def isBlank (c : Char) : Bool :=
  let n := c.toNat
  (9 ≤ n && n ≤ 13) || (28 ≤ n && n ≤ 32) || n == 0x85 || n == 0xA0 || n == 0x1680 ||
    (0x2000 ≤ n && n ≤ 0x200A) || n == 0x2028 || n == 0x2029 || n == 0x202F || n == 0x205F ||
    n == 0x3000

/-- The text without the characters of the class at its end. -/
def dropEndWhile (p : Char → Bool) (t : Text) : Text := (t.reverse.dropWhile p).reverse

/-- The text without the blanks at its start. -/
def trimStart (t : Text) : Text := t.dropWhile isBlank

/-- The text without the blanks at its end. -/
def trimEnd (t : Text) : Text := dropEndWhile isBlank t

/-- The text without the blanks at either end. -/
def trim (t : Text) : Text := trimEnd (trimStart t)

/-- Whether the text holds blanks only. -/
def isBlankText (t : Text) : Bool := t.all isBlank

end ReactLint.Text
