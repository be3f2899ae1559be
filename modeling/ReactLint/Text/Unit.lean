import ReactLint.Text.Basic

/-!
# Code units

Encodings with units of two or four bytes.  A unit of two bytes is a character of its own or half of
a pair that encodes one.  A half that stands alone encodes nothing, and the reader is told what to
put in its place.
-/

namespace ReactLint.Text

/-- Whether a code unit is the first of a pair. -/
def isHighUnit (n : Nat) : Bool := 0xD800 ≤ n && n ≤ 0xDBFF

/-- Whether a code unit is the second of a pair. -/
def isLowUnit (n : Nat) : Bool := 0xDC00 ≤ n && n ≤ 0xDFFF

/-- The character of a code unit; half a pair has none. -/
def unitChar? (n : Nat) : Option Char :=
  if isHighUnit n || isLowUnit n then none else some (Char.ofNat n)

/-- The character that a pair of code units encodes. -/
def pairChar (high low : Nat) : Char :=
  Char.ofNat (0x10000 + (high - 0xD800) * 1024 + (low - 0xDC00))

/-- Which byte of a unit comes first. -/
inductive ByteOrder where
  | highFirst
  | lowFirst
  deriving DecidableEq, Repr

/-- The number that the bytes of a unit write. -/
def ByteOrder.value (o : ByteOrder) (bytes : List UInt8) : Nat :=
  let bytes := match o with
    | highFirst => bytes
    | lowFirst => bytes.reverse
  bytes.foldl (fun n b => 256 * n + b.toNat) 0

/-- The units of two bytes, unless a byte is left over. -/
def units16 (o : ByteOrder) : List UInt8 → Option (List Nat)
  | [] => some []
  | a :: b :: rest => (units16 o rest).map (o.value [a, b] :: ·)
  | [_] => none

/-- The units of four bytes, unless bytes are left over or a unit is too large for a character. -/
def units32 (o : ByteOrder) : List UInt8 → Option (List Nat)
  | [] => some []
  | a :: b :: c :: d :: rest =>
    let n := o.value [a, b, c, d]
    if n < 0x110000 then (units32 o rest).map (n :: ·) else none
  | _ => none

/-- The text that units of four bytes encode, with `lone` for a half that stands alone. -/
def ofUnits32 (lone : Nat → Text) (units : List Nat) : Text :=
  units.flatMap fun n => ((unitChar? n).map ([·])).getD (lone n)

/-- The text that units of two bytes encode, with `lone` for a half that stands alone. -/
def ofUnits16 (lone : Nat → Text) : List Nat → Text
  | [] => []
  | [n] => ofUnits32 lone [n]
  | n :: m :: rest =>
    if isHighUnit n && isLowUnit m then pairChar n m :: ofUnits16 lone rest
    else ofUnits32 lone [n] ++ ofUnits16 lone (m :: rest)

end ReactLint.Text
