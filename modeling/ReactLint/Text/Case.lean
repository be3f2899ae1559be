import ReactLint.Text.Basic
import ReactLint.Text.CaseTable

/-!
# Letter case

Upper, lower and title case of a text.  A letter may have several characters in the other case
(`ß` is `SS` in upper case), so each letter maps to a list.  Lower case looks at the neighbours in
one place only: a capital sigma that ends a word becomes the final sigma.
-/

namespace ReactLint.Text

/-- The case of one letter by the two kinds of table, if they list it. -/
def caseImage? (expansions : List (Nat × List Nat)) (runs : List CaseRun) (n : Nat) :
    Option (List Nat) :=
  match expansions.lookup n with
  | some image => some image
  | none => (mapByRuns runs n).map ([·])

/-- The upper case of one character. -/
def upperChar (c : Char) : Text :=
  if c.toNat < 128 then [c.toUpper]
  else ((caseImage? upperExpansions upperRuns c.toNat).getD [c.toNat]).map Char.ofNat

/-- The lower case of one character, wherever it stands. -/
def lowerChar (c : Char) : Text :=
  if c.toNat < 128 then [c.toLower]
  else ((caseImage? lowerExpansions lowerRuns c.toNat).getD [c.toNat]).map Char.ofNat

/-- The title case of one character: its upper case unless the tables say otherwise. -/
def titleChar (c : Char) : Text :=
  if c.toNat < 128 then [c.toUpper]
  else match caseImage? titleExpansions titleRuns c.toNat with
    | some image => image.map Char.ofNat
    | none => upperChar c

/-- A character that has a case. -/
def isCased (c : Char) : Bool :=
  if c.toNat < 128 then c.isAlpha else inRanges casedRanges c.toNat

/-- A character that a search for a neighbouring cased letter passes over. -/
def isCaseIgnorable (c : Char) : Bool := inRanges caseIgnorableRanges c.toNat

/-- An upper-case letter of any script. -/
def isUpperLetter (c : Char) : Bool :=
  if c.toNat < 128 then c.isUpper else upperLetterRuns.any (·.covers c.toNat)

/-- Whether the first character that is not passed over is cased. -/
def meetsCased (t : Text) : Bool := (t.dropWhile isCaseIgnorable).head?.any isCased

/-- The lower case of `c` between the reversed text before it and the text after it. -/
def lowerBetween (before : Text) (c : Char) (after : Text) : Text :=
  if c = 'Σ' then
    if meetsCased before && !meetsCased after then ['ς'] else ['σ']
  else lowerChar c

/-- The text in upper case. -/
def upper (t : Text) : Text := t.flatMap upperChar

/-- Lower case of the rest of a text, given the reversed text before it. -/
def lowerFrom (before : Text) : Text → Text
  | [] => []
  | c :: cs => lowerBetween before c cs ++ lowerFrom (c :: before) cs

/-- The text in lower case. -/
def lower (t : Text) : Text := lowerFrom [] t

/-- Title case of the rest of a text: a letter that follows a cased one is lowered, any other is
raised. -/
def titleFrom (before : Text) : Text → Text
  | [] => []
  | c :: cs =>
    (if before.head?.any isCased then lowerBetween before c cs else titleChar c) ++
      titleFrom (c :: before) cs

/-- The text in title case. -/
def title (t : Text) : Text := titleFrom [] t

end ReactLint.Text
