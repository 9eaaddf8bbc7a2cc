import EpisodeGuide.Proofs.Binary64.Value
import EpisodeGuide.Proofs.Text.Blank
import EpisodeGuide.Proofs.Text.Digit
import EpisodeGuide.Provider.Entry

/-! # Numbers in three forms

A number may come as an integer, as a number of double width or as digits in a text. Whichever form
it has, it is read as the natural number that it denotes, and as nothing if it denotes none or one
that does not fit 32 bits. -/

namespace EpisodeGuide

theorem Word.unsigned32?_eq_some_iff {i : ℤ} {w : UInt32} : unsigned32? i = some w ↔ i = w.toNat :=
  ⟨fun h => (toNat_of_unsigned32? h).symm, fun h => h ▸ unsigned32?_toNat w⟩

namespace Provider

open Json Text

/-! ### Texts of digits -/

/-- The digits of a number, with any zeros and an optional plus sign in front. -/
inductive Numerals (n : ℕ) : List Char → Prop where
  | bare (zeros) : Numerals n (List.replicate zeros '0' ++ Nat.toDigits 10 n)
  | plus (zeros) : Numerals n ('+' :: (List.replicate zeros '0' ++ Nat.toDigits 10 n))

/-- Numerals with white space around. -/
def NumberText (n : ℕ) (s : List Char) : Prop :=
  ∃ before core after, s = before ++ core ++ after ∧ Numerals n core ∧
    (∀ c ∈ before, isBlankChar c = true) ∧ ∀ c ∈ after, isBlankChar c = true

variable {n : ℕ} {s : List Char}

theorem exists_digit {zeros : ℕ} {c : Char}
    (h : c ∈ List.replicate zeros '0' ++ Nat.toDigits 10 n) : ∃ d < 10, c = Nat.digitChar d := by
  rcases List.mem_append.mp h with h | h
  · exact ⟨0, by decide, List.eq_of_mem_replicate h⟩
  · exact exists_of_mem_toDigits (by decide) h

theorem Numerals.ne_nil (h : Numerals n s) : s ≠ [] := by
  cases h with
  | bare => simp [Nat.toDigits_ne_nil]
  | plus => simp

theorem Numerals.not_blank (h : Numerals n s) : ∀ c ∈ s, isBlankChar c = false := by
  have hdigits : ∀ d < 10, isBlankChar (Nat.digitChar d) = false := by decide
  intro c hc
  cases h with
  | bare =>
      obtain ⟨d, hd, rfl⟩ := exists_digit hc
      exact hdigits d hd
  | plus =>
      rcases List.mem_cons.mp hc with rfl | hc
      · rfl
      · obtain ⟨d, hd, rfl⟩ := exists_digit hc
        exact hdigits d hd

theorem trimChars_eq_of_numerals {before core after : List Char} (h : Numerals n core)
    (hbefore : ∀ c ∈ before, isBlankChar c = true) (hafter : ∀ c ∈ after, isBlankChar c = true) :
    trimChars (before ++ core ++ after) = core :=
  trimChars_blanks hbefore hafter h.ne_nil (fun c hc => h.not_blank c (List.mem_of_mem_head? hc))
    fun c hc => h.not_blank c (List.mem_of_getLast? hc)

/-- A text spells a number exactly if it is the numerals of it, white space left out. -/
theorem spelledNumber?_eq_some_iff : spelledNumber? s = some n ↔ NumberText n s := by
  constructor
  · intro h
    obtain ⟨before, after, hs, hbefore, hafter⟩ := exists_blanks_around s
    refine ⟨before, trimChars s, after, hs, ?_, hbefore, hafter⟩
    unfold spelledNumber? at h
    split at h
    · next digits hplus =>
      obtain ⟨zeros, rfl⟩ := natural?_eq_some_iff.mp h
      rw [hplus]
      exact .plus zeros
    · obtain ⟨zeros, heq⟩ := natural?_eq_some_iff.mp h
      rw [heq]
      exact .bare zeros
  · rintro ⟨before, core, after, rfl, hcore, hbefore, hafter⟩
    rw [spelledNumber?, trimChars_eq_of_numerals hcore hbefore hafter]
    cases hcore with
    | plus zeros => exact natural?_eq_some_iff.mpr ⟨zeros, rfl⟩
    | bare zeros =>
        have hplus : ∀ d < 10, Nat.digitChar d ≠ '+' := by decide
        split
        · next heq =>
          obtain ⟨d, hd, hc⟩ := exists_digit (heq ▸ List.mem_cons_self)
          exact (hplus d hd hc.symm).elim
        · exact natural?_eq_some_iff.mpr ⟨zeros, rfl⟩

/-! ### Values -/

/-- The natural number that a value denotes: as an integer, exactly as a number of double width, or
in a text. -/
inductive Denotes : Value → ℕ → Prop where
  | integer {i : ℤ} {n : ℕ} : i = n → Denotes (.number (.integer i)) n
  | real {x : Binary64} {n : ℕ} : x.value = n → Denotes (.number (.real x)) n
  | text {t : String} {n : ℕ} : NumberText n t.toList → Denotes (.text t) n

/-- A field is read as a number of 32 bits exactly if it denotes that number. -/
theorem lenientNumber_eq_some_iff (v : Value) (w : UInt32) :
    lenientNumber v = some w ↔ Denotes v w.toNat := by
  have hfits (n : ℕ) : Word.unsigned32? n = some w ↔ n = w.toNat := by
    rw [Word.unsigned32?_eq_some_iff, Int.natCast_inj]
  constructor
  · intro h
    cases v with
    | number number =>
        cases number with
        | integer i => exact .integer (Word.unsigned32?_eq_some_iff.mp h)
        | real x =>
            obtain ⟨n, hn, hw⟩ := Option.bind_eq_some_iff.mp h
            exact .real ((hfits n).mp hw ▸ (x.toNat?_eq_some_iff n).mp hn)
    | text s =>
        obtain ⟨n, hn, hw⟩ := Option.bind_eq_some_iff.mp h
        exact .text ((hfits n).mp hw ▸ spelledNumber?_eq_some_iff.mp hn)
    | null | bool | array | object => cases h
  · intro h
    generalize hn : w.toNat = n at h
    cases h with
    | integer hi => exact Word.unsigned32?_eq_some_iff.mpr (hi.trans (congrArg _ hn.symm))
    | @real x _ hx =>
        exact Option.bind_eq_some_iff.mpr
          ⟨n, (x.toNat?_eq_some_iff n).mpr hx, (hfits n).mpr hn.symm⟩
    | text hs =>
        exact Option.bind_eq_some_iff.mpr
          ⟨n, spelledNumber?_eq_some_iff.mpr hs, (hfits n).mpr hn.symm⟩

theorem Denotes.unique {v : Value} {m n : ℕ} (hm : Denotes v m) (hn : Denotes v n) : m = n := by
  cases hm with
  | integer hi =>
      cases hn with
      | integer hj => exact Int.natCast_inj.mp (hi.symm.trans hj)
  | real hx =>
      cases hn with
      | real hy => exact Nat.cast_injective (hx.symm.trans hy)
  | text hs =>
      cases hn with
      | text ht =>
          have hread := spelledNumber?_eq_some_iff.mpr hs
          exact Option.some.inj (hread.symm.trans (spelledNumber?_eq_some_iff.mpr ht))

/-- Nothing is read exactly if no number of 32 bits is denoted. -/
theorem lenientNumber_eq_none_iff (v : Value) :
    lenientNumber v = none ↔ ∀ n, Denotes v n → 2 ^ 32 ≤ n := by
  constructor
  · intro h n hn
    by_contra hlt
    have hw : (UInt32.ofNat n).toNat = n := UInt32.toNat_ofNat_of_lt' (Nat.not_le.mp hlt)
    have hread := (lenientNumber_eq_some_iff v (.ofNat n)).mpr (hw.symm ▸ hn)
    rw [h] at hread
    cases hread
  · intro h
    cases hread : lenientNumber v with
    | none => rfl
    | some w =>
        have hle := h _ ((lenientNumber_eq_some_iff v w).mp hread)
        exact (Nat.not_le_of_lt w.toNat_lt hle).elim

/-- What is read from a value as a number: the number that it denotes if that fits 32 bits, and
otherwise nothing. Values that denote one number are read alike. -/
structure NumberSpec (v : Value) : Prop where
  yields : ∀ w : UInt32, lenientNumber v = some w ↔ Denotes v w.toNat
  nothing : lenientNumber v = none ↔ ∀ n, Denotes v n → 2 ^ 32 ≤ n
  unique : ∀ m n, Denotes v m → Denotes v n → m = n
  agree : ∀ u n, Denotes v n → Denotes u n → lenientNumber u = lenientNumber v

/-- Every value is read as the number that it denotes, in any of the three forms. -/
theorem lenientNumber_numberSpec (v : Value) : NumberSpec v where
  yields := lenientNumber_eq_some_iff v
  nothing := lenientNumber_eq_none_iff v
  unique _ _ := Denotes.unique
  agree := by
    intro u n hv hu
    have hsame {w : UInt32} : lenientNumber u = some w ↔ lenientNumber v = some w := by
      rw [lenientNumber_eq_some_iff, lenientNumber_eq_some_iff]
      constructor
      · intro h
        rwa [← hu.unique h]
      · intro h
        rwa [← hv.unique h]
    exact Option.ext fun w => hsame

end Provider

end EpisodeGuide
