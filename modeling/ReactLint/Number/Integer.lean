import ReactLint.Text.Blank
import ReactLint.Text.Digit
import ReactLint.Text.Scan

/-!
# Reading integers

Two notations of an integer.

**Written numbers** (`readInteger?`) are what an environment variable or an option may hold: blanks
around, one sign, decimal digits of any script with single underscores between them, and at most
`maxDigits` digits.

**Whole numbers** (`readWhole?`) are what a request may hold as text: ASCII digits, zeros in front
and a fraction of zeros.  They are brought to *plain* notation, as in JSON, and only the digits left
there are counted against `maxDigits`.
-/

namespace ReactLint

open Text

/-- The most digits that a number may be written with to be read.  Writing a number has no bound. -/
def maxDigits : Nat := 4300

/-- The number that digits write, the highest first. -/
def ofDigits (ds : List Nat) : Nat := ds.foldl (fun n d => 10 * n + d) 0

/-- A blank that may stand around a number: the four separators below the space do not. -/
def isNumberBlank (c : Char) : Bool := isBlank c && !(28 ≤ c.toNat && c.toNat ≤ 31)

/-- The text without the blanks that may stand around a number. -/
def trimNumber (t : Text) : Text := dropEndWhile isNumberBlank (t.dropWhile isNumberBlank)

/-- The digits of a text of digits with single underscores between them. -/
def digits? : Text → Option (List Nat)
  | [] => none
  | [c] => (digitValue? c).map ([·])
  | c :: '_' :: cs => do
    let d ← digitValue? c
    let ds ← digits? cs
    some (d :: ds)
  | c :: cs => do
    let d ← digitValue? c
    let ds ← digits? cs
    some (d :: ds)

/-- The natural number that a text of digits writes. -/
def readNatural? (t : Text) : Option Nat :=
  (digits? t).bind fun ds => if ds.length ≤ maxDigits then some (ofDigits ds) else none

/-- The integer that a text writes. -/
def readInteger? (t : Text) : Option Int :=
  match trimNumber t with
  | '-' :: t => (readNatural? t).map fun n => -(n : Int)
  | '+' :: t => (readNatural? t).map fun n => (n : Int)
  | t => (readNatural? t).map fun n => (n : Int)

/-! ## Whole numbers -/

/-- The number that ASCII digits write. -/
def readAscii? (t : Text) : Option Nat :=
  if !t.isEmpty && t.all Char.isDigit then some (ofDigits (t.map fun c => c.toNat - 48)) else none

/-- The number that ASCII digits write without needless zeros in front. -/
def readMinimal? : Text → Option Nat
  | ['0'] => some 0
  | '0' :: _ => none
  | t => readAscii? t

/-- The integer in plain notation: at most `maxDigits` digits without needless zeros, and a minus in
front of a negative one. -/
def readPlain? (t : Text) : Option Int :=
  let read := fun (ds : Text) => if maxDigits < ds.length then none else readMinimal? ds
  match t with
  | '-' :: ds => (read ds).map fun n => -(n : Int)
  | ds => (read ds).map fun n => (n : Int)

/-- Whether a text starts with an integer in plain notation that has too many digits to be read,
whatever follows it. -/
def startsOversized (t : Text) : Bool :=
  let digits := ((skip? "-" t).getD t).takeWhile Char.isDigit
  digits.head? != some '0' && maxDigits < digits.length

/-- The text before a fraction of one or more zeros, or the text itself. -/
def dropZeroFraction (t : Text) : Text :=
  match t.dropWhile (· != '.') with
  | _ :: zeros => if !zeros.isEmpty && zeros.all (· == '0') then t.takeWhile (· != '.') else t
  | [] => t

/-- The text without the zeros and underscores that lead a number; a zero that ends it or stands
before a point is kept.  What follows a leading zero is a digit, an underscore, a point or a
minus. -/
def dropLeadingZeros? (t : Text) : Option Text :=
  match t with
  | '0' :: cs =>
    match cs.dropWhile fun c => c == '0' || c == '_' with
    | [] => some (t.drop (t.length - 1))
    | '.' :: rest => some (t.drop (t.length - (rest.length + 2)))
    | c :: rest => if c.isDigit || c == '-' then some (c :: rest) else none
  | c :: _ => if c.isDigit then some t else none
  | [] => none

/-- The text without its underscores, when each stands alone and inside the text. -/
def dropUnderscores (t : Text) : Text :=
  if t.head? == some '_' || t.getLast? == some '_' || mentions "__" t then t
  else t.filter (· != '_')

/-- The plain notation of a number without its sign. -/
def unsignedPlain? (t : Text) : Option Text :=
  (dropLeadingZeros? t).map fun t => dropUnderscores (dropZeroFraction t)

/-- The plain notation of a whole number. -/
def plain? (t : Text) : Option Text :=
  match trimNumber t with
  | '+' :: t => unsignedPlain? t
  | '-' :: t => (unsignedPlain? t).map ('-' :: ·)
  | t => unsignedPlain? t

/-- The whole number that a text writes. -/
def readWhole? (t : Text) : Option Int := (plain? t).bind readPlain?

end ReactLint
