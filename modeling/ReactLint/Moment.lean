import ReactLint.Number.Integer

/-!
# Moments

A moment as a report shows it: date and time of day, down to the second.  The year is written as it
is, every other part with two digits.
-/

namespace ReactLint

open Text

/-- A date and a time of day. -/
structure Moment where
  year : Nat
  month : Nat
  day : Nat
  hour : Nat
  minute : Nat
  second : Nat
  deriving DecidableEq, Repr

namespace Moment

/-- The numbers that digits write in a text, from left to right. -/
def numbers (t : Text) : List Nat :=
  (t.splitBy fun a b => a.isDigit == b.isDigit).filterMap readAscii?

/-- The moment of a written date and time. -/
def ofText? (t : Text) : Option Moment :=
  match numbers t with
  | [year, month, day, hour, minute, second] => some ⟨year, month, day, hour, minute, second⟩
  | _ => none

/-- A number with two digits. -/
def twoDigits (n : Nat) : String := if n < 10 then s!"0{n}" else s!"{n}"

/-- The moment as a report shows it. -/
def toText (m : Moment) : String :=
  let year := m.year
  let month := twoDigits m.month
  let day := twoDigits m.day
  let hour := twoDigits m.hour
  let minute := twoDigits m.minute
  let second := twoDigits m.second
  s!"{year}-{month}-{day} {hour}:{minute}:{second}"

end Moment

end ReactLint
