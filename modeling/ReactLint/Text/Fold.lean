import ReactLint.Text.Scan

/-!
# Words in any case

Reads a word whose letters may have either case.  Four letters beyond ASCII count as ASCII ones:
the dotted capital and the dotless small `i`, the long `s` and the Kelvin sign.
-/

namespace ReactLint.Text

/-- The lower-case letter that a character counts as when case does not matter. -/
def foldLetter (c : Char) : Char :=
  if c = '\u0130' || c = '\u0131' then 'i'
  else if c = '\u017f' then 's'
  else if c = '\u212a' then 'k'
  else c.toLower

/-- What follows the lower-case text `w`, when the text starts with it in any case. -/
def afterFolded? : Text → Text → Option Text
  | [], t => some t
  | _ :: _, [] => none
  | w :: ws, c :: cs => if w = foldLetter c then afterFolded? ws cs else none

/-- What follows the lower-case word `w`, when the text starts with it in any case. -/
def skipFolded? (w : String) (t : Text) : Option Text := afterFolded? w.toList t

end ReactLint.Text
