import ReactLint.Number.Integer
import ReactLint.Text.Unit
import ReactLint.Value

/-!
# Reading values

Reads a value in JSON notation, with `NaN`, `Infinity` and `-Infinity` as numbers besides.  A number
with a fraction or an exponent is real, any other an integer.  When an object names a member twice,
the later value stands at the earlier place.

Every reader returns what it read and the text that follows.  Lists and objects may be nested up to
a given depth.  A step spends one unit of fuel, and `read` starts with more than the text can use.
-/

namespace ReactLint.Value

open Text

/-- Why a text cannot be read. -/
inductive ReadError where
  /-- The text is not in the notation. -/
  | malformed
  /-- An integer has more digits than are read. -/
  | tooLong
  /-- Lists and objects are nested deeper than is read. -/
  | tooDeep
  deriving DecidableEq, Repr

/-- The text without the blanks that the notation allows between its marks. -/
def skipSpace (t : Text) : Text :=
  t.dropWhile fun c => c == ' ' || c == '\t' || c == '\n' || c == '\r'

/-- Four hexadecimal digits. -/
def readHex4 : Text → Except ReadError (Nat × Text)
  | a :: b :: c :: d :: rest =>
    match hexValue? a, hexValue? b, hexValue? c, hexValue? d with
    | some a, some b, some c, some d => .ok (4096 * a + 256 * b + 16 * c + d, rest)
    | _, _, _, _ => .error .malformed
  | _ => .error .malformed

/-- The character of a code unit written in digits, together with the second of a pair. -/
def readUnit (t : Text) : Except ReadError (Option Char × Text) := do
  let (n, rest) ← readHex4 t
  if isHighUnit n then
    match rest with
    | '\\' :: 'u' :: after =>
      let (m, after) ← readHex4 after
      if isLowUnit m then return (some (pairChar n m), after) else return (none, rest)
    | _ => return (none, rest)
  else return (unitChar? n, rest)

/-- The character after a backslash. -/
def readEscape : Text → Except ReadError (Option Char × Text)
  | '"' :: rest => .ok ('"', rest)
  | '\\' :: rest => .ok ('\\', rest)
  | '/' :: rest => .ok ('/', rest)
  | 'b' :: rest => .ok ('\x08', rest)
  | 'f' :: rest => .ok ('\x0c', rest)
  | 'n' :: rest => .ok ('\n', rest)
  | 'r' :: rest => .ok ('\r', rest)
  | 't' :: rest => .ok ('\t', rest)
  | 'u' :: rest => readUnit rest
  | _ => .error .malformed

/-- The characters of a text up to its closing mark, given those read so far in reverse. -/
def readCharsFrom (read : List (Option Char)) :
    Nat → Text → Except ReadError (List (Option Char) × Text)
  | 0, _ => .error .malformed
  | _ + 1, '"' :: rest => .ok (read.reverse, rest)
  | fuel + 1, '\\' :: rest => do
    let (c, rest) ← readEscape rest
    readCharsFrom (c :: read) fuel rest
  | fuel + 1, c :: rest =>
    if c.toNat < 32 then .error .malformed else readCharsFrom (some c :: read) fuel rest
  | _ + 1, [] => .error .malformed

/-- The digits at the start of the text, and what follows. -/
def spanDigits (t : Text) : Text × Text := (t.takeWhile Char.isDigit, t.dropWhile Char.isDigit)

/-- The value of ASCII digits. -/
def digitsValue (ds : Text) : Nat := ofDigits (ds.map fun c => c.toNat - 48)

/-- The digits of a fraction, if one stands here. -/
def readFraction (t : Text) : Option (Text × Text) :=
  (skip? "." t).bind fun t => run? Char.isDigit t

/-- An exponent, if one stands here. -/
def readExponent (t : Text) : Option (Int × Text) := do
  let t ← oneOf? (fun c => c == 'e' || c == 'E') t
  match t with
  | '-' :: t => (run? Char.isDigit t).map fun (ds, rest) => (-(digitsValue ds : Int), rest)
  | '+' :: t => (run? Char.isDigit t).map fun (ds, rest) => ((digitsValue ds : Int), rest)
  | t => (run? Char.isDigit t).map fun (ds, rest) => ((digitsValue ds : Int), rest)

/-- A number without its sign. -/
def readUnsigned (negative : Bool) (t : Text) : Except ReadError (Value × Text) := do
  let (whole, rest) := match t with
    | '0' :: rest => (['0'], rest)
    | t => spanDigits t
  if whole.isEmpty then throw .malformed
  let fraction := readFraction rest
  let afterFraction := (fraction.map Prod.snd).getD rest
  let exponent := readExponent afterFraction
  if fraction.isNone && exponent.isNone then
    if maxDigits < whole.length then throw .tooLong
    let n : Int := digitsValue whole
    return (integer (if negative then -n else n), rest)
  else
    let places := (fraction.map Prod.fst).getD []
    let power := (exponent.map Prod.fst).getD 0 - places.length
    return (real (.ofDecimal negative (digitsValue (whole ++ places)) power),
      (exponent.map Prod.snd).getD afterFraction)

/-- A value that is written as a word or a number. -/
def readScalar (t : Text) : Except ReadError (Value × Text) :=
  match skip? "null" t, skip? "true" t, skip? "false" t with
  | some rest, _, _ => .ok (null, rest)
  | _, some rest, _ => .ok (bool true, rest)
  | _, _, some rest => .ok (bool false, rest)
  | _, _, _ =>
    match skip? "NaN" t, skip? "Infinity" t, skip? "-Infinity" t with
    | some rest, _, _ => .ok (real .nan, rest)
    | _, some rest, _ => .ok (real (.infinite false), rest)
    | _, _, some rest => .ok (real (.infinite true), rest)
    | _, _, _ =>
      match t with
      | '-' :: t => readUnsigned true t
      | t => readUnsigned false t

/-- Adds a member to those before.  The value of a member whose name is ill-formed is its name: no
one asks for it, and what holds it cannot be written. -/
def addMember (name : List (Option Char)) (v : Value) (before : List (Text × Value)) :
    List (Text × Value) :=
  match ofChars name with
  | illFormed t => setMember t (illFormed t) before
  | _ => setMember (name.map (·.getD '\ufffd')) v before

mutual

/-- One value, in which lists and objects are nested at most `depth` deep. -/
def readValue (depth : Nat) : Nat → Text → Except ReadError (Value × Text)
  | 0, _ => .error .malformed
  | fuel + 1, '"' :: rest => do
    let (cs, rest) ← readCharsFrom [] fuel rest
    return (ofChars cs, rest)
  | fuel + 1, '[' :: rest =>
    match depth, skipSpace rest with
    | 0, _ => .error .tooDeep
    | _ + 1, ']' :: rest => .ok (list [], rest)
    | depth + 1, rest => readItems depth [] fuel rest
  | fuel + 1, '{' :: rest =>
    match depth, skipSpace rest with
    | 0, _ => .error .tooDeep
    | _ + 1, '}' :: rest => .ok (object [], rest)
    | depth + 1, rest => readMembers depth [] fuel rest
  | _ + 1, t => readScalar t

/-- The items of a list from one of them on, given the reversed items before. -/
def readItems (depth : Nat) (read : List Value) : Nat → Text → Except ReadError (Value × Text)
  | 0, _ => .error .malformed
  | fuel + 1, t => do
    let (v, rest) ← readValue depth fuel t
    match skipSpace rest with
    | ',' :: rest => readItems depth (v :: read) fuel (skipSpace rest)
    | ']' :: rest => return (list (v :: read).reverse, rest)
    | _ => throw .malformed

/-- The members of an object from one of them on, given the members before. -/
def readMembers (depth : Nat) (read : List (Text × Value)) :
    Nat → Text → Except ReadError (Value × Text)
  | 0, _ => .error .malformed
  | fuel + 1, '"' :: rest => do
    let (name, rest) ← readCharsFrom [] fuel rest
    match skipSpace rest with
    | ':' :: rest =>
      let (v, rest) ← readValue depth fuel (skipSpace rest)
      let read := addMember name v read
      match skipSpace rest with
      | ',' :: rest => readMembers depth read fuel (skipSpace rest)
      | '}' :: rest => return (object read, rest)
      | _ => throw .malformed
    | _ => throw .malformed
  | _ + 1, _ => .error .malformed

end

/-- Reads a whole text as one value, in which lists and objects are nested at most `depth` deep. -/
def read (depth : Nat) (t : Text) : Except ReadError Value := do
  let (v, rest) ← readValue depth (2 * t.length + 2) (skipSpace t)
  if (skipSpace rest).isEmpty then return v else throw .malformed

end ReactLint.Value
