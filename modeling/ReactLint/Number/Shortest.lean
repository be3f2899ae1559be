import ReactLint.Number.Binary64

/-!
# Shortest decimals

The decimal that a double is shown as: of all decimals that read back as the double, one with the
fewest digits, and of those the nearest.

A double stands for the interval of numbers that round to it.  In quarters of its last place the
interval is `low … high` around `4 · mantissa`, its ends included when the mantissa is even.  For
one digit, two, and so on up to seventeen, the two neighbours of the value on the decimal grid of
that many digits are tried; the first grid with a hit gives the decimal.
-/

namespace ReactLint.Binary64

/-- A decimal `0.digits · 10 ^ point`. -/
structure Decimal where
  digits : Nat
  point : Int
  deriving DecidableEq, Repr

/-- `a · 10 ^ p` against `b · 2 ^ e`: both sides multiplied until they are integers. -/
def crossed (a : Nat) (p : Int) (b : Nat) (e : Int) : Nat × Nat :=
  (a * Nat.pow 10 p.toNat * Nat.pow 2 (-e).toNat, b * Nat.pow 2 e.toNat * Nat.pow 10 (-p).toNat)

/-- Whether `c · 10 ^ p` rounds to `m · 2 ^ e`. -/
def roundsTo (m : Nat) (e : Int) (c : Nat) (p : Int) : Bool :=
  let low := if m = Nat.pow 2 52 && -1074 < e then 4 * m - 1 else 4 * m - 2
  let (atLow, lowEnd) := crossed c p low (e - 2)
  let (atHigh, highEnd) := crossed c p (4 * m + 2) (e - 2)
  if m % 2 = 0 then lowEnd ≤ atLow && atHigh ≤ highEnd else lowEnd < atLow && atHigh < highEnd

/-- Whether `m · 2 ^ e` is below `10 ^ p`. -/
def isBelow (m : Nat) (e : Int) (p : Int) : Bool :=
  let (power, value) := crossed 1 p m e
  value < power

/-- The position of the point: the least `p` with `m · 2 ^ e` below `10 ^ p`. -/
def pointOf (m : Nat) (e : Int) : Int :=
  let steps : Nat := ((List.range 640).find? fun (i : Nat) => isBelow m e (i - 325)).getD 640
  (steps : Int) - 325

/-- The decimal of `n` digits that reads back as `m · 2 ^ e`, if there is one. -/
def onGrid? (m : Nat) (e : Int) (point : Int) (n : Nat) : Option Decimal :=
  let p := point - n
  let (unit, value) := crossed 1 p m e
  let c := value / unit
  let hit := fun c => roundsTo m e c p
  let chosen : Option Nat :=
    if hit c && hit (c + 1) then
      let twice := 2 * (value % unit)
      some (if twice < unit || (twice = unit && c % 2 = 0) then c else c + 1)
    else if hit c then some c
    else if hit (c + 1) then some (c + 1)
    else none
  chosen.map fun c => if c = Nat.pow 10 n then ⟨c / 10, point + 1⟩ else ⟨c, point⟩

/-- The shortest decimal of a positive finite number. -/
def shortest (m : Nat) (e : Int) : Decimal :=
  let point := pointOf m e
  (((List.range 17).map (· + 1)).findSome? (onGrid? m e point)).getD ⟨m, point⟩

/-- The digits of a number without the zeros that end it. -/
def significant (n : Nat) : Text := ((Nat.toDigits 10 n).reverse.dropWhile (· == '0')).reverse

/-- A decimal in positions: a zero is written on either side of the point where no digit is. -/
def positional (ds : Text) (point : Int) : Text :=
  if point ≤ 0 then '0' :: '.' :: (List.replicate (-point).toNat '0' ++ ds)
  else
    let whole := ds.take point.toNat
    let zeros := List.replicate (point.toNat - whole.length) '0'
    let fraction := ds.drop point.toNat
    whole ++ zeros ++ '.' :: (if fraction.isEmpty then ['0'] else fraction)

/-- A decimal with a power of ten, its sign written and of two digits at least. -/
def scientific (ds : Text) (point : Int) : Text :=
  let power := point - 1
  let digits := Nat.toDigits 10 power.natAbs
  let digits := if digits.length < 2 then '0' :: digits else digits
  let lead := ds.take 1 ++ (if (ds.drop 1).isEmpty then [] else '.' :: ds.drop 1)
  lead ++ 'e' :: (if power < 0 then '-' else '+') :: digits

/-- The number as messages show it: in positions from 10⁻⁴ up to 10¹⁶. -/
def toText : Binary64 → Text
  | nan => "nan".toList
  | infinite negative => (if negative then "-inf" else "inf").toList
  | finite negative m e =>
    let sign := if negative then ['-'] else []
    if m = 0 then sign ++ "0.0".toList
    else
      let d := shortest m e
      let ds := significant d.digits
      sign ++ if -4 < d.point && d.point ≤ 16 then positional ds d.point else scientific ds d.point

end ReactLint.Binary64
