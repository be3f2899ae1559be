import ReactLint.Text.Basic

/-!
# Bytes of a text

Texts are stored in UTF-8.  Reading never fails: bytes that encode no character are replaced, one
replacement character for each longest start of an encoding that breaks off.  A reader of files
also takes a carriage return, alone or before a line feed, for a line feed.
-/

namespace ReactLint.Text

/-- The byte of this value, which is below 256 wherever it is used. -/
def byte (n : Nat) : UInt8 := UInt8.ofNat n

/-- The bytes of one character. -/
def encodeChar (c : Char) : List UInt8 :=
  let n := c.toNat
  if n < 0x80 then [byte n]
  else if n < 0x800 then [byte (0xC0 + n / 64), byte (0x80 + n % 64)]
  else if n < 0x10000 then
    [byte (0xE0 + n / 4096), byte (0x80 + n / 64 % 64), byte (0x80 + n % 64)]
  else
    [byte (0xF0 + n / 262144), byte (0x80 + n / 4096 % 64), byte (0x80 + n / 64 % 64),
      byte (0x80 + n % 64)]

/-- The bytes of a text. -/
def encode (t : Text) : List UInt8 := t.flatMap encodeChar

/-- What stands for bytes that encode no character. -/
def replacement : Char := '\ufffd'

/-- Whether a byte continues an encoding. -/
def isContinuation (b : UInt8) : Bool := 0x80 ≤ b && b ≤ 0xBF

/-- Whether a byte may be the second of an encoding that starts with `lead`: encodings that are
longer than needed, surrogates and numbers that are too large are excluded here. -/
def isSecond (lead b : UInt8) : Bool :=
  if lead = 0xE0 then 0xA0 ≤ b && b ≤ 0xBF
  else if lead = 0xED then 0x80 ≤ b && b ≤ 0x9F
  else if lead = 0xF0 then 0x90 ≤ b && b ≤ 0xBF
  else if lead = 0xF4 then 0x80 ≤ b && b ≤ 0x8F
  else isContinuation b

/-- How many bytes an encoding that starts with this byte has, zero when none does. -/
def encodingLength (lead : UInt8) : Nat :=
  if lead < 0x80 then 1
  else if 0xC2 ≤ lead && lead ≤ 0xDF then 2
  else if 0xE0 ≤ lead && lead ≤ 0xEF then 3
  else if 0xF0 ≤ lead && lead ≤ 0xF4 then 4
  else 0

/-- The six bits that a continuing byte carries. -/
def payload (b : UInt8) : Nat := b.toNat % 64

/-- The text that the bytes encode. -/
def decode : List UInt8 → Text
  | [] => []
  | a :: rest =>
    match encodingLength a, rest with
    | 1, rest => Char.ofNat a.toNat :: decode rest
    | 2, b :: rest' =>
      if isSecond a b then Char.ofNat (a.toNat % 32 * 64 + payload b) :: decode rest'
      else replacement :: decode (b :: rest')
    | 3, b :: c :: rest' =>
      if isSecond a b then
        if isContinuation c then
          Char.ofNat (a.toNat % 16 * 4096 + payload b * 64 + payload c) :: decode rest'
        else replacement :: decode (c :: rest')
      else replacement :: decode (b :: c :: rest')
    | 3, [b] => if isSecond a b then [replacement] else replacement :: decode [b]
    | 4, b :: c :: d :: rest' =>
      if isSecond a b then
        if isContinuation c then
          if isContinuation d then
            Char.ofNat (a.toNat % 8 * 262144 + payload b * 4096 + payload c * 64 + payload d) ::
              decode rest'
          else replacement :: decode (d :: rest')
        else replacement :: decode (c :: d :: rest')
      else replacement :: decode (b :: c :: d :: rest')
    | 4, [b, c] =>
      if isSecond a b then
        if isContinuation c then [replacement] else replacement :: decode [c]
      else replacement :: decode [b, c]
    | 4, [b] => if isSecond a b then [replacement] else replacement :: decode [b]
    | _, rest => replacement :: decode rest

/-- The text with every line ending as a line feed. -/
def unifyLineEnds : Text → Text
  | '\r' :: '\n' :: rest => '\n' :: unifyLineEnds rest
  | '\r' :: rest => '\n' :: unifyLineEnds rest
  | c :: rest => c :: unifyLineEnds rest
  | [] => []

/-- The text of a stored file. -/
def ofFileBytes (bytes : List UInt8) : Text := unifyLineEnds (decode bytes)

end ReactLint.Text
