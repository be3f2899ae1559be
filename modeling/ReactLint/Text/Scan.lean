import ReactLint.Text.Blank
import ReactLint.Text.Word

/-!
# Recognisers

A recogniser looks at the start of a text and, when it finds its construct there, returns what
follows it.  Every construct that the linter looks for is decided by reading on without going back:
the class of characters that continues a token never meets the characters that may follow it.

A construct that may stand anywhere is tried at every *place* of the text, a place being the
character before it and the text from there on.  The character before is what tells a whole word
from the end of a longer one.
-/

namespace ReactLint.Text

/-- What follows `w`, when the text starts with it. -/
def after? : Text → Text → Option Text
  | [], t => some t
  | _ :: _, [] => none
  | w :: ws, c :: cs => if w = c then after? ws cs else none

@[simp] theorem after?_append (w r : Text) : after? w (w ++ r) = some r := by
  induction w with
  | nil => rfl
  | cons c w ih => simpa [after?] using ih

/-- A text that starts with `w` is `w` and what follows it. -/
theorem after?_eq_some_iff {w t r : Text} : after? w t = some r ↔ t = w ++ r := by
  constructor
  · intro h
    induction w generalizing t with
    | nil => simpa [after?] using h
    | cons c w ih =>
      cases t with
      | nil => simp [after?] at h
      | cons d t =>
        by_cases hcd : c = d
        · subst hcd
          simp only [after?, ↓reduceIte] at h
          rw [ih h, List.cons_append]
        · simp [after?, hcd] at h
  · rintro rfl
    exact after?_append w r

/-- What follows the word `w`, when the text starts with it. -/
def skip? (w : String) (t : Text) : Option Text := after? w.toList t

/-- An opening brace, as a word to look for. -/
def openBrace : String := String.ofList ['{']

/-- A closing brace, as a word to look for. -/
def closeBrace : String := String.ofList ['}']

@[simp] theorem toList_openBrace : openBrace.toList = ['{'] := String.toList_ofList

@[simp] theorem toList_closeBrace : closeBrace.toList = ['}'] := String.toList_ofList

/-- Whether the text starts with the word `w`. -/
def starts (w : String) (t : Text) : Bool := (skip? w t).isSome

/-- What follows the first of the words that the text starts with. -/
def skipAny? (ws : List String) (t : Text) : Option Text := ws.findSome? (skip? · t)

/-- What follows one or more blanks. -/
def blanks? (t : Text) : Option Text :=
  match t with
  | c :: cs => if isBlank c then some (trimStart cs) else none
  | [] => none

/-- What follows the word `w` and one or more blanks. -/
def keyword? (w : String) (t : Text) : Option Text := (skip? w t).bind blanks?

/-- What follows the first of the words that is followed by blanks. -/
def keywordAny? (ws : List String) (t : Text) : Option Text := ws.findSome? (keyword? · t)

/-- The text after the word `w` and its blanks, or the text itself when it does not start so. -/
def optionalKeyword (w : String) (t : Text) : Text := (keyword? w t).getD t

/-- What follows any blanks and then the word `w`. -/
def blanksThen? (w : String) (t : Text) : Option Text := skip? w (trimStart t)

/-- What follows one character of the class. -/
def oneOf? (p : Char → Bool) (t : Text) : Option Text :=
  match t with
  | c :: cs => if p c then some cs else none
  | [] => none

/-- The longest run of characters of the class, when it is not empty, and what follows it. -/
def run? (p : Char → Bool) (t : Text) : Option (Text × Text) :=
  let r := t.takeWhile p
  if r.isEmpty then none else some (r, t.dropWhile p)

/-- An identifier and what follows it. -/
def identifier? (t : Text) : Option (Text × Text) := run? isIdent t

/-- A quotation mark that may enclose a module or table name. -/
def isQuote (c : Char) : Bool := c == '\'' || c == '"'

/-! ## Places -/

/-- A place in a text: the character before it, if any, and the text from there on. -/
structure Place where
  before : Option Char
  rest : Text
  deriving DecidableEq

/-- The places of a text that follows the character `before`, from left to right and up to its
end. -/
def placesAfter (before : Option Char) : Text → List Place
  | [] => [⟨before, []⟩]
  | c :: cs => ⟨before, c :: cs⟩ :: placesAfter (some c) cs

/-- All places of a text. -/
def places (t : Text) : List Place := placesAfter none t

/-- Whether the construct stands at some place of the text. -/
def anywhere (f : Place → Bool) (t : Text) : Bool := (places t).any f

/-- At how many places of the text the construct stands. -/
def countPlaces (f : Place → Bool) (t : Text) : Nat := (places t).countP f

/-- What the recogniser finds at the leftmost place where it finds anything. -/
def search? {α : Type} (f : Place → Option α) (t : Text) : Option α := (places t).findSome? f

/-- Whether a text does not continue a word. -/
def endsWord (t : Text) : Bool := !t.head?.any isWord

/-- What follows the word `w` at a place where a word starts. -/
def Place.word? (w : String) (p : Place) : Option Text :=
  if p.before.any isWord then none else skip? w p.rest

/-- Whether `w` stands here as a whole word. -/
def Place.isWhole (w : String) (p : Place) : Bool := (p.word? w).any endsWord

end ReactLint.Text
