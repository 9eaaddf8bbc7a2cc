import EpisodeGuide.Url.Path
import Mathlib

/-! # Percent coding reads back

A text that is coded spells the bytes of the text again, whichever characters are coded besides the
percent sign. Coding brings in percent signs and digits only. -/

namespace EpisodeGuide.Url

open EpisodeGuide.Text

variable {set : Char → Bool}

/-! ### Bytes -/

theorem hexDigit?_upperHexDigit {n : ℕ} (h : n < 16) : hexDigit? (upperHexDigit n) = some n := by
  decide +revert

theorem percentDecode_percentByte (b : UInt8) (rest : List Char) :
    percentDecode (percentByte b ++ rest) = b :: percentDecode rest := by
  have hb : b.toNat < 256 := b.toNat_lt
  have hhigh : hexDigit? (upperHexDigit (b.toNat / 16)) = some (b.toNat / 16) :=
    hexDigit?_upperHexDigit (by omega)
  have hlow : hexDigit? (upperHexDigit (b.toNat % 16)) = some (b.toNat % 16) :=
    hexDigit?_upperHexDigit (by omega)
  have hvalue : b.toNat / 16 * 16 + b.toNat % 16 = b.toNat := by omega
  simp [percentByte, percentDecode, hhigh, hlow, hvalue]

theorem percentDecode_bytes (bytes : List UInt8) (rest : List Char) :
    percentDecode (bytes.flatMap percentByte ++ rest) = bytes ++ percentDecode rest := by
  induction bytes with
  | nil => rfl
  | cons b bytes ih =>
      rw [List.flatMap_cons, List.append_assoc, percentDecode_percentByte, ih, List.cons_append]

/-! ### Texts -/

theorem percentDecode_cons {c : Char} (h : c ≠ '%') (rest : List Char) :
    percentDecode (c :: rest) = String.utf8EncodeChar c ++ percentDecode rest := by
  rw [percentDecode]
  simp [h]

theorem percentDecode_percentChar (hset : set '%' = true) (c : Char) (rest : List Char) :
    percentDecode (percentChar set c ++ rest) =
      String.utf8EncodeChar c ++ percentDecode rest := by
  unfold percentChar
  split
  · next hplain =>
    refine percentDecode_cons ?_ rest
    rintro rfl
    simp [hset] at hplain
  · exact percentDecode_bytes _ rest

theorem percentDecode_percentEncode (hset : set '%' = true) (s : List Char) :
    percentDecode (percentEncode set s) = s.flatMap String.utf8EncodeChar := by
  induction s with
  | nil => rfl
  | cons c s ih =>
      rw [percentEncode, List.flatMap_cons, percentDecode_percentChar hset, List.flatMap_cons]
      exact congrArg _ ih

theorem decodeUtf8?_flatMap (s : List Char) :
    decodeUtf8? (s.flatMap String.utf8EncodeChar) = some s := by
  have hbytes : ByteArray.mk (s.flatMap String.utf8EncodeChar).toArray = s.utf8Encode :=
    ByteArray.ext (List.data_toByteArray).symm
  rw [decodeUtf8?, hbytes, List.utf8Decode?_utf8Encode]
  rfl

/-- A coded text is read back. -/
theorem decode_percentEncode (hset : set '%' = true) (s : List Char) :
    decodeUtf8? (percentDecode (percentEncode set s)) = some s := by
  rw [percentDecode_percentEncode hset, decodeUtf8?_flatMap]

theorem percentEncode_inj (hset : set '%' = true) {s t : List Char}
    (h : percentEncode set s = percentEncode set t) : s = t := by
  have hs := decode_percentEncode hset s
  rw [h, decode_percentEncode hset t] at hs
  exact (Option.some.inj hs).symm

/-! ### Separators -/

theorem mem_percentByte {b : UInt8} {x : Char} (h : x ∈ percentByte b) :
    x = '%' ∨ ∃ n < 16, x = upperHexDigit n := by
  have hb : b.toNat < 256 := b.toNat_lt
  simp only [percentByte, List.mem_cons, List.not_mem_nil, or_false] at h
  rcases h with rfl | rfl | rfl
  · exact .inl rfl
  · exact .inr ⟨_, by omega, rfl⟩
  · exact .inr ⟨_, by omega, rfl⟩

theorem slash_notMem_percentByte (b : UInt8) : '/' ∉ percentByte b := by
  intro h
  rcases mem_percentByte h with hpercent | ⟨n, hn, hdigit⟩
  · exact absurd hpercent (by decide)
  · have hnone : hexDigit? '/' = none := by decide
    rw [hdigit, hexDigit?_upperHexDigit hn] at hnone
    cases hnone

/-- A coded text has a slash only where the text has one that is not coded. -/
theorem slash_of_mem_percentEncode {s : List Char} (h : '/' ∈ percentEncode set s) :
    '/' ∈ s ∧ set '/' = false := by
  obtain ⟨c, hc, hmem⟩ := List.mem_flatMap.mp h
  unfold percentChar at hmem
  split at hmem
  · next hplain =>
    obtain rfl := List.mem_singleton.mp hmem
    exact ⟨hc, by simpa using hplain⟩
  · obtain ⟨b, -, hb⟩ := List.mem_flatMap.mp hmem
    exact (slash_notMem_percentByte b hb).elim

/-! ### Dots -/

/-- A segment that reads as starting with a dot spells one there, plain or coded. -/
theorem percentDecode_of_plainDots {s r : Segment} (h : plainDots s = '.' :: r) :
    ∃ t, percentDecode s = 0x2E :: percentDecode t ∧ plainDots t = r := by
  unfold plainDots at h
  split at h
  · next t => exact ⟨t, by rw [percentDecode]; rfl, (List.cons.inj h).2⟩
  · next t => exact ⟨t, by rw [percentDecode]; rfl, (List.cons.inj h).2⟩
  · next c t _ _ =>
    obtain ⟨rfl, htail⟩ := List.cons.inj h
    exact ⟨t, percentDecode_cons (by decide) t, htail⟩
  · cases h

theorem plainDots_eq_nil {s : Segment} (h : plainDots s = []) : s = [] := by
  unfold plainDots at h
  split at h
  · cases h
  · cases h
  · cases h
  · rfl

/-- A coded segment stands for one dot only where its text is one. -/
theorem isSingleDot_percentEncode (hset : set '%' = true) {s : List Char}
    (h : isSingleDot (percentEncode set s) = true) : s = ['.'] := by
  obtain ⟨t, hfirst, ht⟩ := percentDecode_of_plainDots (eq_of_beq h)
  rw [plainDots_eq_nil ht] at hfirst
  have hs := decode_percentEncode hset s
  rw [hfirst] at hs
  exact Option.some.inj (hs.symm.trans (decodeUtf8?_flatMap ['.']))

theorem isDoubleDot_percentEncode (hset : set '%' = true) {s : List Char}
    (h : isDoubleDot (percentEncode set s) = true) : s = ['.', '.'] := by
  obtain ⟨t, hfirst, ht⟩ := percentDecode_of_plainDots (eq_of_beq h)
  obtain ⟨t', hsecond, ht'⟩ := percentDecode_of_plainDots ht
  rw [hsecond, plainDots_eq_nil ht'] at hfirst
  have hs := decode_percentEncode hset s
  rw [hfirst] at hs
  exact Option.some.inj (hs.symm.trans (decodeUtf8?_flatMap ['.', '.']))

end EpisodeGuide.Url
