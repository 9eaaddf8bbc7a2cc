import EpisodeGuide.Proofs.Url.Coding
import EpisodeGuide.Url.Form

/-! # Forms read back

Pairs that are coded as a form are read back in their order, as the bytes of their texts. A form
needs no further coding in the query of a URL. -/

namespace EpisodeGuide.Url

open EpisodeGuide.Text

variable {c : Char} {s : List Char}

/-! ### Texts -/

/-- A space is written as a plus sign, and no other character is left as one. -/
theorem formChar_cases (c : Char) :
    c = ' ' ∧ formChar c = ['+'] ∨ formChar c = percentChar (fun c => !isFormPlain c) c := by
  unfold formChar
  split
  · next h => exact .inl ⟨by simpa using h, rfl⟩
  · exact .inr rfl

/-- What a form consists of: characters that it leaves as they are, plus signs and percent codes. -/
theorem mem_formEncode (h : c ∈ formEncode s) :
    c.toNat < 0x80 ∧ isFormPlain c = true ∨ c = '+' ∨ c ∈ codeChars := by
  obtain ⟨x, -, hx⟩ := List.mem_flatMap.mp h
  rcases formChar_cases x with ⟨-, hplus⟩ | hcoded
  · rw [hplus, List.mem_singleton] at hx
    exact .inr (.inl hx)
  · rw [hcoded] at hx
    have hmem : c ∈ percentEncode (fun c => !isFormPlain c) [x] := by simpa [percentEncode] using hx
    rcases mem_percentEncode hmem with ⟨-, hascii, hplain⟩ | hcode
    · exact .inl ⟨hascii, by simpa using hplain⟩
    · exact .inr (.inr hcode)

/-- A character that a form does not leave as it is, and that is no part of a code. -/
theorem notMem_formEncode (hplain : isFormPlain c = false) (hcode : c ∉ '+' :: codeChars)
    (s : List Char) : c ∉ formEncode s := by
  intro h
  rw [List.mem_cons, not_or] at hcode
  rcases mem_formEncode h with ⟨-, hc⟩ | hc | hc
  · rw [hplain] at hc
    cases hc
  · exact hcode.1 hc
  · exact hcode.2 hc

theorem percentDecode_formChar (c : Char) (rest : List Char) :
    percentDecode ((formChar c).map (fun c => if c == '+' then ' ' else c) ++ rest) =
      String.utf8EncodeChar c ++ percentDecode rest := by
  rcases formChar_cases c with ⟨rfl, hplus⟩ | hcoded
  · rw [hplus]
    exact percentDecode_cons (by decide) rest
  · have hkept : (percentChar (fun c => !isFormPlain c) c).map
        (fun c => if c == '+' then ' ' else c) =
          percentChar (fun c => !isFormPlain c) c := by
      refine (List.map_congr_left fun x hx => ?_).trans (List.map_id' _)
      have hmem : x ∈ percentEncode (fun c => !isFormPlain c) [c] := by
        simpa [percentEncode] using hx
      have hne : x ≠ '+' := by
        rintro rfl
        rcases mem_percentEncode hmem with ⟨-, -, hplain⟩ | hcode
        · exact absurd hplain (by decide)
        · exact absurd hcode (by decide)
      simp [hne]
    rw [hcoded, hkept]
    exact percentDecode_percentChar (by decide) c rest

theorem formDecode_formEncode (s : List Char) :
    formDecode (formEncode s) = s.flatMap String.utf8EncodeChar := by
  unfold formDecode formEncode
  induction s with
  | nil => rfl
  | cons c s ih =>
      rw [List.flatMap_cons, List.map_append, percentDecode_formChar, ih, List.flatMap_cons]

/-! ### Pairs -/

theorem formSplit_formPair (pair : List Char × List Char) :
    formSplit (formPair pair) =
      (pair.1.flatMap String.utf8EncodeChar, pair.2.flatMap String.utf8EncodeChar) := by
  have hkey : ∀ c ∈ formEncode pair.1, (c != '=') = true := fun c hc => by
    have hne : c ≠ '=' := fun h => notMem_formEncode (by decide) (by decide) pair.1 (h ▸ hc)
    simpa using hne
  rw [formSplit, formPair, List.takeWhile_append_of_pos hkey, List.dropWhile_append_of_pos hkey]
  simp [formDecode_formEncode]

theorem ampersand_notMem_formPair (pair : List Char × List Char) : '&' ∉ formPair pair := by
  have hfree (s : List Char) : '&' ∉ formEncode s := notMem_formEncode (by decide) (by decide) s
  simp [formPair, hfree]

/-- The pairs of a form are read back. -/
theorem formDecodePairs_formPairs (pairs : List (List Char × List Char)) :
    formDecodePairs (formPairs pairs) = pairs.map fun pair =>
      (pair.1.flatMap String.utf8EncodeChar, pair.2.flatMap String.utf8EncodeChar) := by
  cases pairs with
  | nil => rfl
  | cons pair pairs =>
      have hfree : ∀ text ∈ (pair :: pairs).map formPair, '&' ∉ text :=
        List.forall_mem_map.mpr fun pair _ => ampersand_notMem_formPair pair
      have hfull : ∀ text ∈ (pair :: pairs).map formPair, (!text.isEmpty) = true :=
        List.forall_mem_map.mpr fun pair _ => by simp [formPair]
      rw [formDecodePairs, formPairs, List.splitOn_intercalate '&' hfree (by simp),
        List.filter_eq_self.mpr hfull, List.map_map]
      exact List.map_congr_left fun pair _ => formSplit_formPair pair

theorem formDecodePairs_append (s t : List Char) :
    formDecodePairs (s ++ '&' :: t) = formDecodePairs s ++ formDecodePairs t := by
  have hsplit : (s ++ '&' :: t).splitOn '&' = s.splitOn '&' ++ t.splitOn '&' :=
    List.splitOnP_append_cons s t (by rfl)
  rw [formDecodePairs, hsplit, List.filter_append, List.map_append]
  rfl

/-- Further pairs in a query are read behind its own. -/
theorem formDecodePairs_withPairs (u : Url) (pairs : List (List Char × List Char)) :
    formDecodePairs ((u.withPairs pairs).query.getD []) =
      formDecodePairs (u.query.getD []) ++ pairs.map fun pair =>
        (pair.1.flatMap String.utf8EncodeChar, pair.2.flatMap String.utf8EncodeChar) := by
  rw [← formDecodePairs_formPairs]
  cases pairs with
  | nil => exact (List.append_nil _).symm
  | cons pair pairs =>
      have hquery : (u.withPairs (pair :: pairs)).query =
          some (appendPairs u.query (pair :: pairs)) := rfl
      rw [hquery, Option.getD_some]
      rcases u.query with - | - | ⟨c, q⟩
      · rfl
      · rfl
      · exact formDecodePairs_append (c :: q) _

theorem inQuerySet_of_isFormPlain (hascii : c.toNat < 0x80) (h : isFormPlain c = true) :
    inQuerySet true c = false := by
  have hall : ((List.range 0x80).map Char.ofNat).all
      (fun c => !isFormPlain c || !inQuerySet true c) = true := by cbv
  have hmem : c ∈ (List.range 0x80).map Char.ofNat :=
    List.mem_map.mpr ⟨c.toNat, List.mem_range.mpr hascii, Char.ofNat_toNat c⟩
  simpa [h] using List.all_eq_true.mp hall c hmem

/-- A form is left as it is in the query of a URL. -/
theorem plain_formPairs (pairs : List (List Char × List Char)) :
    Plain (inQuerySet true) (formPairs pairs) := by
  have hsigns : ('&' :: '=' :: '+' :: codeChars).all
      (fun c => decide (c.toNat < 0x80) && !inQuerySet true c) = true := by cbv
  have hsign {c : Char} (hc : c ∈ '&' :: '=' :: '+' :: codeChars) :
      c.toNat < 0x80 ∧ inQuerySet true c = false := by
    simpa using List.all_eq_true.mp hsigns c hc
  have hencode (s : List Char) : Plain (inQuerySet true) (formEncode s) := fun c hc => by
    rcases mem_formEncode hc with ⟨hascii, hplain⟩ | hc
    · exact ⟨hascii, inQuerySet_of_isFormPlain hascii hplain⟩
    · exact hsign (by simp [hc])
  have hpair (pair : List Char × List Char) : Plain (inQuerySet true) (formPair pair) :=
    List.forall_mem_append.mpr ⟨hencode _, List.forall_mem_cons.mpr ⟨hsign (by simp), hencode _⟩⟩
  unfold formPairs
  induction pairs with
  | nil => exact List.forall_mem_nil _
  | cons pair pairs ih =>
      cases pairs with
      | nil => simpa [List.intercalate] using hpair pair
      | cons next pairs =>
          rw [List.map_cons, List.intercalate_cons_of_ne_nil (by simp)]
          exact List.forall_mem_append.mpr ⟨List.forall_mem_append.mpr
            ⟨hpair pair, List.forall_mem_singleton.mpr (hsign (by simp))⟩, ih⟩

end EpisodeGuide.Url
