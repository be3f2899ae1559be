/-!
# Texts

The scanner reads files character by character, so a *text* is a list of characters and a position
in it is a number of characters.  This file holds the operations that know nothing of character
classes: lines, occurrences and replacement.
-/

namespace ReactLint

/-- A sequence of characters. -/
abbrev Text := List Char

namespace Text

/-- The lines of a text.  Only the line feed ends a line, and a text always has at least one. -/
def lines (t : Text) : List Text := t.splitOn '\n'

/-- The text whose lines these are. -/
def unlines (ls : List Text) : Text := List.intercalate ['\n'] ls

/-- Whether `w` stands somewhere in the text. -/
def occurs (w : Text) : Text → Bool
  | [] => w.isEmpty
  | c :: cs => w.isPrefixOf (c :: cs) || occurs w cs

/-- Whether the word `w` stands somewhere in the text. -/
def mentions (w : String) (t : Text) : Bool := occurs w.toList t

/-- The text with every `old` replaced by `new`. -/
def replaceChar (old new : Char) (t : Text) : Text := t.map fun c => if c = old then new else c

/-- The first `n` characters; a negative `n` leaves out as many characters at the end. -/
def upTo (n : Int) (t : Text) : Text :=
  if n < 0 then t.take (t.length + n).toNat else t.take n.toNat

end Text

end ReactLint
