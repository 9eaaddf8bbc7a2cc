import EpisodeGuide.Text.Utf8
import Mathlib.Data.Nat.Basic

/-! # UTF-8 read back

Lenient reading of the bytes of a text gives that text: no character is replaced. -/

namespace EpisodeGuide.Text

variable {need low high bits x b : ℕ} {rest : List UInt8}

theorem decodeLossyFrom_first (hb : b < 256) :
    decodeLossyFrom none (UInt8.ofNat b :: rest) =
      (firstByte b).1 ++ decodeLossyFrom (firstByte b).2 rest := by
  have hbyte : (UInt8.ofNat b).toNat = b := UInt8.toNat_ofNat_of_lt' hb
  rw [decodeLossyFrom, hbyte, nextByte]

theorem firstByte_of_two (hfirst : 2 ≤ x) (hlast : x < 32) :
    firstByte (x + 192) = ([], some ⟨1, 0x80, 0xBF, x⟩) := by
  rw [firstByte, if_neg (by omega), if_neg (by omega), if_pos (by omega), Nat.add_sub_cancel]

theorem firstByte_of_three (hlast : x < 16) :
    firstByte (x + 224) =
      ([], some ⟨2, if x = 0 then 0xA0 else 0x80, if x = 13 then 0x9F else 0xBF, x⟩) := by
  rw [firstByte, if_neg (by omega), if_neg (by omega), if_neg (by omega), if_pos (by omega)]
  simp

theorem firstByte_of_four (hlast : x < 5) :
    firstByte (x + 240) =
      ([], some ⟨3, if x = 0 then 0x90 else 0x80, if x = 4 then 0x8F else 0xBF, x⟩) := by
  rw [firstByte, if_neg (by omega), if_neg (by omega), if_neg (by omega), if_neg (by omega),
    if_pos (by omega)]
  simp

/-- The last byte that is missing completes the character. -/
theorem decodeLossyFrom_last (hx : x < 64) (hlow : low ≤ x + 128) (hhigh : x + 128 ≤ high) :
    decodeLossyFrom (some ⟨1, low, high, bits⟩) (UInt8.ofNat (x + 128) :: rest) =
      Char.ofNat (bits * 64 + x) :: decodeLossyFrom none rest := by
  have hbyte : (UInt8.ofNat (x + 128)).toNat = x + 128 :=
    UInt8.toNat_ofNat_of_lt' (show x + 128 < 256 by omega)
  rw [decodeLossyFrom, hbyte, nextByte, if_pos ⟨hlow, hhigh⟩, Nat.add_sub_cancel]
  rfl

/-- A byte that others are missing behind adds its bits. -/
theorem decodeLossyFrom_tail (hx : x < 64) (hlow : low ≤ x + 128) (hhigh : x + 128 ≤ high) :
    decodeLossyFrom (some ⟨need + 2, low, high, bits⟩) (UInt8.ofNat (x + 128) :: rest) =
      decodeLossyFrom (some ⟨need + 1, 0x80, 0xBF, bits * 64 + x⟩) rest := by
  have hbyte : (UInt8.ofNat (x + 128)).toNat = x + 128 :=
    UInt8.toNat_ofNat_of_lt' (show x + 128 < 256 by omega)
  rw [decodeLossyFrom, hbyte, nextByte, if_pos ⟨hlow, hhigh⟩, Nat.add_sub_cancel,
    if_neg (by simp)]
  rfl

/-- The bytes of a character spell it, whatever follows. -/
theorem decodeLossyFrom_utf8EncodeChar (c : Char) (rest : List UInt8) :
    decodeLossyFrom none (String.utf8EncodeChar c ++ rest) = c :: decodeLossyFrom none rest := by
  have hchar : Char.ofNat c.toNat = c := Char.ofNat_toNat c
  -- No surrogates, and nothing above the last character.
  have hrange : c.toNat < 0xD800 ∨ 0xDFFF < c.toNat ∧ c.toNat < 0x110000 := c.valid
  generalize hn : c.toNat = n at hchar hrange
  have hval : c.val.toNat = n := hn
  rw [String.utf8EncodeChar, hval]
  split
  · next h =>
    rw [List.singleton_append, decodeLossyFrom_first (by omega), firstByte,
      if_pos (by omega), hchar]
    rfl
  split
  · next h =>
    simp only [List.cons_append, List.nil_append]
    rw [decodeLossyFrom_first (by omega), firstByte_of_two (by omega) (by omega), List.nil_append,
      decodeLossyFrom_last (by omega) (by omega) (by omega),
      show n / 64 % 32 * 64 + n % 64 = n by omega, hchar]
  split
  · next h =>
    simp only [List.cons_append, List.nil_append]
    rw [decodeLossyFrom_first (by omega), firstByte_of_three (by omega), List.nil_append,
      decodeLossyFrom_tail (by omega) (by split <;> omega) (by split <;> omega),
      decodeLossyFrom_last (by omega) (by omega) (by omega),
      show (n / 4096 % 16 * 64 + n / 64 % 64) * 64 + n % 64 = n by omega, hchar]
  · simp only [List.cons_append, List.nil_append]
    rw [decodeLossyFrom_first (by omega), firstByte_of_four (by omega), List.nil_append,
      decodeLossyFrom_tail (by omega) (by split <;> omega) (by split <;> omega),
      decodeLossyFrom_tail (by omega) (by omega) (by omega),
      decodeLossyFrom_last (by omega) (by omega) (by omega),
      show ((n / 262144 % 8 * 64 + n / 4096 % 64) * 64 + n / 64 % 64) * 64 + n % 64 = n by omega,
      hchar]

/-- The bytes of a text are those of its characters. -/
theorem toList_toUTF8 (s : String) :
    s.toUTF8.data.toList = s.toList.flatMap String.utf8EncodeChar := by
  rw [String.toUTF8, ← String.utf8Encode_toList, List.utf8Encode, List.data_toByteArray]

/-- The bytes of a text spell it. -/
theorem decodeLossy_toUTF8 (s : String) : decodeLossy s.toUTF8.data.toList = s := by
  have hchars (cs : List Char) : decodeLossyFrom none (cs.flatMap String.utf8EncodeChar) = cs := by
    induction cs with
    | nil => rfl
    | cons c cs ih => rw [List.flatMap_cons, decodeLossyFrom_utf8EncodeChar, ih]
  rw [decodeLossy, toList_toUTF8, hchars, String.ofList_toList]

end EpisodeGuide.Text
