import Playbook.Text.Utf8
/-!
# What is encoded is decoded

The first byte of a character fixes the bounds of the second, and these are just what the encoding of a character keeps:
no character has a longer form than it needs, and none is a surrogate. So the strict reader of bytes takes the
characters of an encoded text out again, one after the other.
-/

namespace Playbook.Text

theorem toNat_ofNat_byte {n : Nat} (h : n < 256) : (UInt8.ofNat n).toNat = n := by
  rw [UInt8.toNat_ofNat']
  exact Nat.mod_eq_of_lt h

/-- A byte within the bounds adds its six bits. -/
theorem continueChar_cons (following least greatest bits taken n : Nat) (rest : Bytes) (hbyte : n < 256)
    (hleast : least ≤ n) (hgreatest : n ≤ greatest) :
    continueChar (following + 1) least greatest bits taken (UInt8.ofNat n :: rest) =
      continueChar following 0x80 0xbf (bits * 64 + (n - 0x80)) (taken + 1) rest := by
  rw [continueChar, toNat_ofNat_byte hbyte, if_pos ⟨hleast, hgreatest⟩]

/-- The six bits of a byte behind the second one are not bounded further. -/
theorem continueChar_tail (following bits taken n : Nat) (rest : Bytes) :
    continueChar (following + 1) 0x80 0xbf bits taken (UInt8.ofNat (n % 64 + 128) :: rest) =
      continueChar following 0x80 0xbf (bits * 64 + n % 64) (taken + 1) rest := by
  rw [continueChar_cons _ _ _ _ _ _ _ (by omega) (by omega) (by omega), Nat.add_sub_cancel]

theorem stepUtf8_of_leadByte {n : Nat} {lead : LeadByte} (hbyte : n < 256) (h : leadByte n = some lead) (rest : Bytes) :
    stepUtf8 (UInt8.ofNat n) rest =
      continueChar lead.following lead.least lead.greatest lead.bits 1 rest := by
  rw [stepUtf8, toNat_ofNat_byte hbyte, h]

/-! ### First bytes -/

theorem leadByte_one {n : Nat} (h : n < 0x80) : leadByte n = some ⟨0, 0x80, 0xbf, n⟩ := by
  rw [leadByte, if_pos h]

theorem leadByte_two {n : Nat} (hleast : 0xc2 ≤ n) (h : n < 0xe0) :
    leadByte n = some ⟨1, 0x80, 0xbf, n - 0xc0⟩ := by
  rw [leadByte, if_neg (by omega), if_neg (by omega), if_pos h]

/-- The bounds of the second byte of a character of three bytes. -/
theorem leadByte_three {n : Nat} (h : n < 16) :
    leadByte (n + 0xe0) =
      some ⟨2, if n = 0 then 0xa0 else 0x80, if n = 0xd then 0x9f else 0xbf, n⟩ := by
  unfold leadByte
  rw [if_neg (by omega), if_neg (by omega), if_neg (by omega)]
  by_cases hzero : n = 0
  · subst hzero
    rfl
  by_cases hsurrogates : n = 0xd
  · subst hsurrogates
    rfl
  · rw [if_neg (by omega), if_neg (by omega), if_pos (by omega), if_neg hzero, if_neg hsurrogates, Nat.add_sub_cancel]

/-- The bounds of the second byte of a character of four bytes. -/
theorem leadByte_four {n : Nat} (h : n ≤ 4) :
    leadByte (n + 0xf0) =
      some ⟨3, if n = 0 then 0x90 else 0x80, if n = 4 then 0x8f else 0xbf, n⟩ := by
  have hcases : n = 0 ∨ n = 1 ∨ n = 2 ∨ n = 3 ∨ n = 4 := by omega
  rcases hcases with rfl | rfl | rfl | rfl | rfl <;> rfl

/-! ### Characters -/

/-- The number of a character is below the surrogates, or above them and below the end of all planes. -/
theorem val_range (c : Char) : c.val.toNat < 0xd800 ∨ 0xdfff < c.val.toNat ∧ c.val.toNat < 0x110000 := c.valid

/-- The bytes of a character are read as the character. -/
theorem stepUtf8_utf8EncodeChar (c : Char) (rest : Bytes) :
    ∃ b bs, String.utf8EncodeChar c = b :: bs ∧ stepUtf8 b (bs ++ rest) = .char c rest := by
  have hrange := val_range c
  have hchar : Char.ofNat c.val.toNat = c := Char.ofNat_toNat c
  unfold String.utf8EncodeChar
  generalize c.val.toNat = n at hrange hchar ⊢
  dsimp only
  split
  · refine ⟨_, _, rfl, ?_⟩
    rw [stepUtf8_of_leadByte (by omega) (leadByte_one (by omega))]
    rw [continueChar, hchar, List.nil_append]
  split
  · refine ⟨_, _, rfl, ?_⟩
    rw [stepUtf8_of_leadByte (by omega) (leadByte_two (by omega) (by omega)), List.cons_append]
    rw [continueChar_tail]
    have hbits : (n / 64 % 32 + 192 - 192) * 64 + n % 64 = n := by omega
    rw [continueChar, hbits, hchar, List.nil_append]
  split
  · refine ⟨_, _, rfl, ?_⟩
    rw [stepUtf8_of_leadByte (by omega) (leadByte_three (by omega)), List.cons_append, List.cons_append]
    rw [continueChar_cons _ _ _ _ _ _ _ (by omega) (by dsimp only; split <;> omega) (by dsimp only; split <;> omega)]
    rw [continueChar_tail]
    have hbits : (n / 4096 % 16 * 64 + (n / 64 % 64 + 128 - 128)) * 64 + n % 64 = n := by omega
    rw [continueChar, hbits, hchar, List.nil_append]
  · refine ⟨_, _, rfl, ?_⟩
    rw [stepUtf8_of_leadByte (by omega) (leadByte_four (by omega))]
    rw [List.cons_append, List.cons_append, List.cons_append]
    rw [continueChar_cons _ _ _ _ _ _ _ (by omega) (by dsimp only; split <;> omega) (by dsimp only; split <;> omega)]
    rw [continueChar_tail, continueChar_tail]
    have hbits : ((n / 262144 % 8 * 64 + (n / 4096 % 64 + 128 - 128)) * 64 + n / 64 % 64) * 64 + n % 64 = n := by omega
    rw [continueChar, hbits, hchar, List.nil_append]

/-! ### Texts -/

theorem encodeUtf8_cons (c : Char) (cs : List Char) : encodeUtf8 (c :: cs) = String.utf8EncodeChar c ++ encodeUtf8 cs :=
  List.flatMap_cons

theorem decodeUtf8Of_encodeUtf8 (total : Nat) (cs : List Char) : decodeUtf8Of total (encodeUtf8 cs) = .ok cs := by
  induction cs with
  | nil => rw [encodeUtf8, List.flatMap_nil, decodeUtf8Of]
  | cons c cs ih =>
      obtain ⟨b, bs, hbytes, hstep⟩ := stepUtf8_utf8EncodeChar c (encodeUtf8 cs)
      rw [encodeUtf8_cons, hbytes, List.cons_append, decodeUtf8Of]
      split
      · rename_i hmalformed
        rw [hstep] at hmalformed
        cases hmalformed
      · rename_i hchar
        rw [hstep] at hchar
        cases hchar
        rw [ih]
        rfl

theorem decodeUtf8_encodeUtf8 (cs : List Char) : decodeUtf8 (encodeUtf8 cs) = .ok cs :=
  decodeUtf8Of_encodeUtf8 _ cs

end Playbook.Text
