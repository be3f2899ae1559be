import ReactLint.Service.Framework
import ReactLint.Text.Unit
import ReactLint.Text.Utf8
import ReactLint.Value.Reader

/-!
# Bodies

The body of a request holds a value in JSON notation.  It comes as bytes, and how they encode its
characters is told by the zeros among the first of them: the notation starts with a character of
ASCII, so wider units show themselves by a zero beside it.  This is the rule of the runtime's
reader, and so is the depth up to which it reads (`Body.maxDepth`).
-/

namespace ReactLint

open Text

/-- The body of a request. -/
inductive Body where
  | absent
  | value (v : Value)
  | text (t : Text)

/-- Why a body holds no value. -/
inductive BodyError where
  /-- There is nothing in the body. -/
  | missing
  /-- The body is not in JSON notation. -/
  | malformed
  /-- The body cannot be decoded, or holds more than is read. -/
  | unreadable
  deriving DecidableEq, Repr

namespace Body

/-- How the bytes of a body encode its characters. -/
inductive Encoding where
  | bytes
  | units16 (order : ByteOrder)
  | units32 (order : ByteOrder)
  deriving DecidableEq, Repr

/-- The encoding that the first bytes tell. -/
def Encoding.ofBytes : List UInt8 → Encoding
  | 0 :: 0 :: _ :: _ :: _ => .units32 .highFirst
  | 0 :: _ :: _ :: _ :: _ => .units16 .highFirst
  | _ :: 0 :: 0 :: 0 :: _ => .units32 .lowFirst
  | _ :: 0 :: _ :: _ :: _ => .units16 .lowFirst
  | [0, _] => .units16 .highFirst
  | [_, 0] => .units16 .lowFirst
  | _ => .bytes

/-- The escape that names a code unit in a text. -/
def unitEscape (n : Nat) : Text := '\\' :: 'u' :: hexDigits 4 n

/-- The characters of a body, given the text that its bytes are in UTF-8.  A byte order mark in
front is passed over.  A half that stands alone is put down as its escape, which says the same where
it is allowed, in a text, and is refused where it is not. -/
def characters? (t : Text) : Option Text :=
  let bytes := encode t
  match Encoding.ofBytes bytes with
  | .bytes => some ((skip? "\ufeff" t).getD t)
  | .units16 order => (Text.units16 order bytes).map (ofUnits16 unitEscape)
  | .units32 order => (Text.units32 order bytes).map (ofUnits32 unitEscape)

/-- The value that a body holds. -/
def read : Body → Except BodyError Value
  | .absent => .error .missing
  | .value v => .ok v
  | .text [] => .error .missing
  | .text t =>
    match characters? t with
    | none => .error .unreadable
    | some t =>
      match Value.read maxDepth t with
      | .ok v => .ok v
      | .error .malformed => .error .malformed
      | .error .tooLong | .error .tooDeep => .error .unreadable

end Body

end ReactLint
