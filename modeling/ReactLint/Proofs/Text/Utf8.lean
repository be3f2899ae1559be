import Mathlib.Data.List.Basic
import Mathlib.Tactic.Common
import ReactLint.Text.Utf8

/-!
# Bytes read back

The bytes of a text decode to the text, whatever characters it holds (`decode_encode`).  Each
character is read back by itself: its first byte tells how many follow, and the arithmetic of
`encodeChar` puts every one of them in the range that the decoder expects.  The second byte is where
the bounds on a character are used: there the decoder excludes encodings that are longer than
needed, surrogates and numbers that are too large.
-/

namespace ReactLint.Text

/-! ## Single bytes

What the decoder asks of a byte, as questions about its number. -/

/-- A number that fits into a byte is not changed by it. -/
lemma toNat_byte {n : Nat} (h : n < 256) : (byte n).toNat = n := by
  rw [byte, UInt8.toNat_ofNat']
  omega

/-- The first byte of a character tells the length of its encoding; the bytes that start none are
told by a length of zero. -/
lemma encodingLength_eq (a : UInt8) :
    encodingLength a =
      if a.toNat < 0x80 then 1
      else if 0xC2 ≤ a.toNat ∧ a.toNat ≤ 0xDF then 2
      else if 0xE0 ≤ a.toNat ∧ a.toNat ≤ 0xEF then 3
      else if 0xF0 ≤ a.toNat ∧ a.toNat ≤ 0xF4 then 4
      else 0 := by
  simp [encodingLength, UInt8.lt_iff_toNat_lt, UInt8.le_iff_toNat_le]

lemma isContinuation_iff {b : UInt8} :
    isContinuation b = true ↔ 0x80 ≤ b.toNat ∧ b.toNat ≤ 0xBF := by
  simp [isContinuation, UInt8.le_iff_toNat_le]

/-- The second byte is bounded further behind four first bytes: where the encoding would be longer
than needed, where it would be half of a surrogate pair, and where it would go beyond the last
character. -/
lemma isSecond_iff {lead b : UInt8} :
    isSecond lead b = true ↔ 0x80 ≤ b.toNat ∧ b.toNat ≤ 0xBF ∧
      (lead.toNat = 0xE0 → 0xA0 ≤ b.toNat) ∧ (lead.toNat = 0xED → b.toNat ≤ 0x9F) ∧
      (lead.toNat = 0xF0 → 0x90 ≤ b.toNat) ∧ (lead.toNat = 0xF4 → b.toNat ≤ 0x8F) := by
  simp only [isSecond, ← UInt8.toNat_inj]
  split_ifs with hE0 hED hF0 hF4
  all_goals simp_all [isContinuation_iff, UInt8.le_iff_toNat_le]
  all_goals omega

section Continuing

variable {n : Nat} (h : n < 64)
include h

lemma isContinuation_byte : isContinuation (byte (0x80 + n)) = true := by
  rw [isContinuation_iff, toNat_byte (by omega)]
  omega

/-- A byte that continues a character carries six bits of it. -/
lemma payload_byte : payload (byte (0x80 + n)) = n := by
  rw [payload, toNat_byte (by omega)]
  omega

end Continuing

/-! ## Characters -/

section Lead

variable {a b c d : UInt8} (rest : List UInt8)

/-- The decoder takes as many bytes off the front as the first of them says. -/
lemma decode_one (ha : encodingLength a = 1) :
    decode (a :: rest) = Char.ofNat a.toNat :: decode rest := by
  rw [decode.eq_def]
  simp [ha]

lemma decode_two (ha : encodingLength a = 2) (hb : isSecond a b = true) :
    decode (a :: b :: rest) = Char.ofNat (a.toNat % 32 * 64 + payload b) :: decode rest := by
  rw [decode.eq_def]
  simp [ha, hb]

lemma decode_three (ha : encodingLength a = 3) (hb : isSecond a b = true)
    (hc : isContinuation c = true) :
    decode (a :: b :: c :: rest)
      = Char.ofNat (a.toNat % 16 * 4096 + payload b * 64 + payload c) :: decode rest := by
  rw [decode.eq_def]
  simp [ha, hb, hc]

lemma decode_four (ha : encodingLength a = 4) (hb : isSecond a b = true)
    (hc : isContinuation c = true) (hd : isContinuation d = true) :
    decode (a :: b :: c :: d :: rest)
      = Char.ofNat (a.toNat % 8 * 262144 + payload b * 4096 + payload c * 64 + payload d) ::
          decode rest := by
  rw [decode.eq_def]
  simp [ha, hb, hc, hd]

end Lead

/-- **One character is read back.** -/
lemma decode_encodeChar_append (c : Char) (rest : List UInt8) :
    decode (encodeChar c ++ rest) = c :: decode rest := by
  have hvalid : c.toNat < 0xD800 ∨ 0xDFFF < c.toNat ∧ c.toNat < 0x110000 := c.valid
  have hchar {n : Nat} (h : n = c.toNat) : Char.ofNat n :: decode rest = c :: decode rest := by
    rw [h, Char.ofNat_toNat]
  simp only [encodeChar]
  split_ifs with h1 h2 h3
  · have hlead := toNat_byte (n := c.toNat) (by omega)
    have hlength : encodingLength (byte c.toNat) = 1 := by
      rw [encodingLength_eq, hlead, if_pos h1]
    exact (decode_one rest hlength).trans (hchar hlead)
  · have hlead := toNat_byte (n := 0xC0 + c.toNat / 64) (by omega)
    have hb := toNat_byte (n := 0x80 + c.toNat % 64) (by omega)
    have hlength : encodingLength (byte (0xC0 + c.toNat / 64)) = 2 := by
      rw [encodingLength_eq, hlead, if_neg (by omega), if_pos (by omega)]
    refine (decode_two rest hlength ?_).trans (hchar ?_)
    · rw [isSecond_iff, hlead, hb]
      omega
    · rw [hlead, payload_byte (by omega)]
      omega
  · have hlead := toNat_byte (n := 0xE0 + c.toNat / 4096) (by omega)
    have hb := toNat_byte (n := 0x80 + c.toNat / 64 % 64) (by omega)
    have hlength : encodingLength (byte (0xE0 + c.toNat / 4096)) = 3 := by
      rw [encodingLength_eq, hlead, if_neg (by omega), if_neg (by omega), if_pos (by omega)]
    refine (decode_three rest hlength ?_ (isContinuation_byte (by omega))).trans (hchar ?_)
    · rw [isSecond_iff, hlead, hb]
      omega
    · rw [hlead, payload_byte (by omega), payload_byte (by omega)]
      omega
  · have hlead := toNat_byte (n := 0xF0 + c.toNat / 262144) (by omega)
    have hb := toNat_byte (n := 0x80 + c.toNat / 4096 % 64) (by omega)
    have hlength : encodingLength (byte (0xF0 + c.toNat / 262144)) = 4 := by
      rw [encodingLength_eq, hlead, if_neg (by omega), if_neg (by omega), if_neg (by omega),
        if_pos (by omega)]
    refine (decode_four rest hlength ?_ (isContinuation_byte (by omega))
      (isContinuation_byte (by omega))).trans (hchar ?_)
    · rw [isSecond_iff, hlead, hb]
      omega
    · rw [hlead, payload_byte (by omega), payload_byte (by omega), payload_byte (by omega)]
      omega

/-- **The bytes of a text decode to the text.** -/
lemma decode_encode (t : Text) : decode (encode t) = t := by
  induction t with
  | nil => rw [encode, List.flatMap_nil, decode]
  | cons c t ih =>
      rw [encode, List.flatMap_cons, decode_encodeChar_append]
      exact congrArg (c :: ·) ih

end ReactLint.Text
