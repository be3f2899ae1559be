import ReactLint.Text.Basic

/-!
# Double-precision numbers

A double-precision number is a sign, a mantissa below 2⁵³ and a power of two, or one of the values
that are no number.  Everything is exact integer arithmetic: a decimal is rounded to the nearest
double, a tie to the even mantissa.
-/

namespace ReactLint

/-- A double-precision number; a finite one is `± mantissa · 2 ^ exponent`. -/
inductive Binary64 where
  | finite (negative : Bool) (mantissa : Nat) (exponent : Int)
  | infinite (negative : Bool)
  | nan
  deriving DecidableEq, Repr

namespace Binary64

/-- The quotient rounded to the nearest integer, a tie to the even one. -/
def roundDiv (num den : Nat) : Nat :=
  let q := num / den
  let twice := 2 * (num % den)
  if twice < den then q
  else if twice > den then q + 1
  else if q % 2 = 0 then q else q + 1

/-- `num / den / 2 ^ e`, rounded. -/
def scaled (num den : Nat) (e : Int) : Nat :=
  if 0 ≤ e then roundDiv num (den * Nat.pow 2 e.toNat)
  else roundDiv (num * Nat.pow 2 (-e).toNat) den

/-- The double nearest to `num / den`. -/
def nearest (negative : Bool) (num den : Nat) : Binary64 :=
  if num = 0 then finite negative 0 0
  else
    let top : Int := Nat.log2 num - Nat.log2 den
    let e := max (top - 53) (-1074)
    let e := if Nat.pow 2 53 < scaled num den e then e + 1 else e
    let m := scaled num den e
    let (m, e) := if m = Nat.pow 2 53 then (Nat.pow 2 52, e + 1) else (m, e)
    if 971 < e then infinite negative else finite negative m e

/-- The double nearest to `± digits · 10 ^ exponent`. -/
def ofDecimal (negative : Bool) (digits : Nat) (exponent : Int) : Binary64 :=
  let size : Int := (Nat.toDigits 10 digits).length + exponent
  if digits = 0 || size < -330 then finite negative 0 0
  else if 310 < size then infinite negative
  else if 0 ≤ exponent then nearest negative (digits * Nat.pow 10 exponent.toNat) 1
  else nearest negative digits (Nat.pow 10 (-exponent).toNat)

/-- The integer part of a finite number. -/
def truncate? : Binary64 → Option Int
  | finite negative m e =>
    let n : Nat := if 0 ≤ e then m * Nat.pow 2 e.toNat else m / Nat.pow 2 (-e).toNat
    some (if negative then -(n : Int) else n)
  | _ => none

/-- Whether the number is an integer. -/
def isWhole : Binary64 → Bool
  | finite _ m e => 0 ≤ e || m % Nat.pow 2 (-e).toNat == 0
  | _ => false

end Binary64

end ReactLint
