/-!
# Ranges of code points

Character classes that reach beyond ASCII are tables of code point ranges.  A table lists its
ranges in increasing order, so a look-up stops at the first range that starts above the code point.
-/

namespace ReactLint.Text

/-- Whether one of the ranges, sorted and given by first and last code point, holds `n`. -/
def inRanges : List (Nat × Nat) → Nat → Bool
  | [], _ => false
  | (first, last) :: rest, n => first ≤ n && (n ≤ last || inRanges rest n)

end ReactLint.Text
