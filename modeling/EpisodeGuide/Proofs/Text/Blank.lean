import EpisodeGuide.Text.Blank
import Mathlib.Data.List.DropRight

/-! # Trimmed texts

Trimming takes white space only, so it leaves something of a text that holds anything else. It takes
all of the white space around a text that has none at its ends. -/

namespace EpisodeGuide.Text

theorem mem_dropWhile_of_not {p : Char → Bool} {s : List Char} {c : Char} (h : c ∈ s)
    (hp : p c = false) : c ∈ s.dropWhile p := by
  induction s with
  | nil => cases h
  | cons d s ih =>
      rw [List.dropWhile_cons]
      split
      · next hd =>
        rcases List.mem_cons.mp h with rfl | hs
        · simp [hp] at hd
        · exact ih hs
      · exact h

/-- What is left of a text that is not blank is not blank. -/
theorem isBlank_trim {s : String} (h : isBlank s = false) : isBlank (trim s) = false := by
  obtain ⟨c, hc, hword⟩ : ∃ c ∈ s.toList, isBlankChar c = false := by simpa [isBlank] using h
  refine List.all_eq_false.mpr ⟨c, ?_, by simp [hword]⟩
  have hfront := mem_dropWhile_of_not hc hword
  have hback := mem_dropWhile_of_not (List.mem_reverse.mpr hfront) hword
  simpa [trim, trimChars] using hback

theorem nonBlank?_eq_some_iff {key : Option String} {s : String} :
    nonBlank? key = some s ↔ key = some s ∧ isBlank s = false := by
  simp [nonBlank?, Option.filter_eq_some_iff]

theorem nonBlank?_eq_none_iff {key : Option String} :
    nonBlank? key = none ↔ ∀ s ∈ key, isBlank s = true := by
  simp [nonBlank?, Option.filter_eq_none_iff]

/-! ### White space around a text -/

/-- A text is what trimming leaves of it, with white space around. -/
theorem exists_blanks_around (s : List Char) : ∃ before after,
    s = before ++ trimChars s ++ after ∧ (∀ c ∈ before, isBlankChar c = true) ∧
      ∀ c ∈ after, isBlankChar c = true := by
  have htrim : trimChars s = (s.dropWhile isBlankChar).rdropWhile isBlankChar := rfl
  refine ⟨s.takeWhile isBlankChar, (s.dropWhile isBlankChar).rtakeWhile isBlankChar, ?_, ?_, ?_⟩
  · rw [List.append_assoc, htrim, List.rdropWhile_append_rtakeWhile,
      List.takeWhile_append_dropWhile]
  · intro c hc
    exact List.mem_takeWhile_imp hc
  · intro c hc
    exact List.mem_rtakeWhile_imp hc

theorem dropWhile_blanks {before s : List Char} (h : ∀ c ∈ before, isBlankChar c = true)
    (hs : ∀ c ∈ s.head?, isBlankChar c = false) : (before ++ s).dropWhile isBlankChar = s := by
  rw [List.dropWhile_append_of_pos h]
  cases s with
  | nil => rfl
  | cons c s => exact List.dropWhile_cons_of_neg (by simpa using hs)

/-- Trimming leaves a text that has no white space at its ends. -/
theorem trimChars_blanks {before s after : List Char}
    (hbefore : ∀ c ∈ before, isBlankChar c = true) (hafter : ∀ c ∈ after, isBlankChar c = true)
    (hne : s ≠ []) (hhead : ∀ c ∈ s.head?, isBlankChar c = false)
    (hlast : ∀ c ∈ s.getLast?, isBlankChar c = false) :
    trimChars (before ++ s ++ after) = s := by
  have hfront : ∀ c ∈ (s ++ after).head?, isBlankChar c = false := by
    rwa [List.head?_append_of_ne_nil _ hne]
  have hback : ((s ++ after).reverse).dropWhile isBlankChar = s.reverse := by
    rw [List.reverse_append]
    exact dropWhile_blanks (by simpa using hafter) (by simpa using hlast)
  rw [trimChars, List.append_assoc, dropWhile_blanks hbefore hfront, hback, List.reverse_reverse]

end EpisodeGuide.Text
