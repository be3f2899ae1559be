import ReactLint.Text.Basic

/-!
# Source files and located finds

A *source* is a file's text with the path that decides which rules apply to it.  Its lines are
numbered from one.

Most rules look at each line together with the lines after it.  `locate` runs such a look over all
lines and attaches the line numbers; the look itself never sees a number, so what a rule finds does
not depend on how many lines stand above.
-/

namespace ReactLint

/-- A file's text and its path. -/
structure Source where
  path : Text
  content : Text
  deriving DecidableEq, Repr

/-- The lines of the file. -/
def Source.lines (s : Source) : List Text := Text.lines s.content

/-- The number of lines, at least one. -/
def Source.lineCount (s : Source) : Nat := s.lines.length

/-- Something found on a line. -/
structure Located (α : Type) where
  line : Nat
  item : α
  deriving DecidableEq, Repr

/-- Something with a name and a size: a block and its lines, a function and its parameters. -/
structure Measured where
  name : Text
  size : Nat
  deriving DecidableEq, Repr

/-- What `look` finds on each line, given the lines after it, numbered from `n`. -/
def locateFrom {α : Type} (look : Text → List Text → List α) (n : Nat) :
    List Text → List (Located α)
  | [] => []
  | l :: ls => (look l ls).map (⟨n, ·⟩) ++ locateFrom look (n + 1) ls

/-- Numbering from `n + k` shifts every find by `k` lines. -/
theorem locateFrom_add {α : Type} (look : Text → List Text → List α) (n k : Nat)
    (ls : List Text) :
    locateFrom look (n + k) ls = (locateFrom look n ls).map fun f => ⟨f.line + k, f.item⟩ := by
  induction ls generalizing n with
  | nil => rfl
  | cons l ls ih =>
    have hshift : n + k + 1 = n + 1 + k := by omega
    simp [locateFrom, hshift, ih (n + 1), Function.comp_def]

/-- What `look` finds on each line, given the lines after it. -/
def locate {α : Type} (look : Text → List Text → List α) (lines : List Text) : List (Located α) :=
  locateFrom look 1 lines

/-- What `look` finds on each line by itself. -/
def locateOn {α : Type} (look : Text → Option α) (lines : List Text) : List (Located α) :=
  locate (fun l _ => (look l).toList) lines

end ReactLint
