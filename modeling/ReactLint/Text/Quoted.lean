import ReactLint.Text.Basic
import ReactLint.Text.Printable

/-!
# Quoted texts

How messages show a text that came from outside: in single quotes, or in double quotes when that
saves escapes, with everything that cannot be shown as it is escaped by name or by code point.
-/

namespace ReactLint.Text

/-- The last `width` hexadecimal digits of a number, the highest first. -/
def hexDigits : Nat → Nat → Text
  | 0, _ => []
  | width + 1, n => hexDigits width (n / 16) ++ [Nat.digitChar (n % 16)]

/-- One character between the given quotation marks. -/
def escapeChar (mark : Char) (c : Char) : Text :=
  if c = mark || c = '\\' then ['\\', c]
  else if c = '\n' then ['\\', 'n']
  else if c = '\r' then ['\\', 'r']
  else if c = '\t' then ['\\', 't']
  else if isPrintable c then [c]
  else if c.toNat < 0x100 then '\\' :: 'x' :: hexDigits 2 c.toNat
  else if c.toNat < 0x10000 then '\\' :: 'u' :: hexDigits 4 c.toNat
  else '\\' :: 'U' :: hexDigits 8 c.toNat

/-- The mark around a text: double quotes only when the text holds a single quote and no double
one. -/
def markFor (t : Text) : Char := if t.contains '\'' && !t.contains '"' then '"' else '\''

/-- The text in quotation marks. -/
def quote (t : Text) : Text :=
  let mark := markFor t
  mark :: t.flatMap (escapeChar mark) ++ [mark]

end ReactLint.Text
