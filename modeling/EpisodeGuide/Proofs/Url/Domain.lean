import EpisodeGuide.Proofs.Text.Digit
import EpisodeGuide.Proofs.Url.Path
import EpisodeGuide.Proofs.Url.Punycode

/-! # Domain names read back

The ASCII form of a name is its own ASCII form. Its labels are read as the labels that they were
written for, and those are in their mapped and composed form already. -/

namespace EpisodeGuide.Url.Domain

open Unicode

variable {c : Char} {s name : List Char} {l : Label} {labels : List Label}

/-! ### Small characters -/

/-- A character of ASCII that is no capital letter. -/
def IsSmall (c : Char) : Prop :=
  c.toNat < 0x80 ∧ ¬ (0x41 ≤ c.toNat ∧ c.toNat ≤ 0x5A)

instance (c : Char) : Decidable (IsSmall c) :=
  inferInstanceAs (Decidable (_ ∧ _))

theorem mapCodePoint?_of_isSmall (h : IsSmall c) : mapCodePoint? c.toNat = some [c.toNat] := by
  rw [mapCodePoint?, if_pos h.1, if_neg h.2]

/-- A character that stays as it is has no other case. -/
theorem isSmall_of_isKept (h : isKept c = true) (hc : c.toNat < 0x80) : IsSmall c := by
  refine ⟨hc, ?_⟩
  intro hcapital
  rw [isKept, mapCodePoint?, if_pos hc, if_pos hcapital] at h
  simp at h

theorem toLower_of_isSmall (h : IsSmall c) : c.toLower = c := by
  apply Char.toLower_eq_of_not_isUpper
  intro hupper
  simp only [Char.isUpper, ge_iff_le, decide_eq_true_eq, UInt32.le_iff_toNat_le] at hupper
  exact h.2 hupper

theorem lowerAscii_of_isSmall (h : ∀ c ∈ s, IsSmall c) : lowerAscii s = s := by
  rw [lowerAscii, List.map_congr_left fun c hc => toLower_of_isSmall (h c hc), List.map_id']

theorem isSmall_of_mem_lowerAscii (h : isAscii s = true) : ∀ c ∈ lowerAscii s, IsSmall c := by
  have hlower : ∀ n < 128, IsSmall (Char.ofNat n).toLower := by decide
  intro c hc
  obtain ⟨d, hd, rfl⟩ := List.mem_map.mp hc
  have hsmall := hlower d.toNat (of_decide_eq_true (List.all_eq_true.mp h d hd))
  rwa [Char.ofNat_toNat] at hsmall

theorem isAscii_of_isSmall (h : ∀ c ∈ s, IsSmall c) : isAscii s = true := by
  apply List.all_eq_true.mpr
  intro c hc
  exact decide_eq_true (h c hc).1

theorem map_ofNat_toNat (s : List Char) : (s.map Char.toNat).map Char.ofNat = s := by
  simp [Function.comp_def, Char.ofNat_toNat]

theorem normalForm_of_isAscii (h : isAscii s = true) : normalForm s = s := by
  have hall : (s.map Char.toNat).all (· < 0x80) = true := by
    rw [List.all_map]
    exact h
  rw [normalForm, Unicode.normalize, if_pos hall, map_ofNat_toNat]

theorem mapText?_of_isSmall (h : ∀ c ∈ s, IsSmall c) : mapText? s = some s := by
  have hmapped : s.mapM (fun c => mapCodePoint? c.toNat) = some (s.map fun c => [c.toNat]) :=
    Text.mapM_eq_some_map fun c hc => mapCodePoint?_of_isSmall (h c hc)
  have hflatten : (s.map fun c => [c.toNat]).flatten.map Char.ofNat = s := by
    rw [← List.flatMap_def, ← List.map_eq_flatMap, map_ofNat_toNat]
  rw [mapText?, hmapped, Option.map_some, hflatten, normalForm_of_isAscii (isAscii_of_isSmall h)]

/-! ### Labels -/

/-- A label of a name that is read: no dot is in it, and it looks like no other label's Punycode. -/
structure IsLabel (l : Label) : Prop where
  wellFormed : isWellFormed l = true
  dot : '.' ∉ l
  mark : isAscii l = true → afterMark? l = none

theorem IsLabel.isSmall (h : IsLabel l) (hmem : c ∈ l) (hc : c.toNat < 0x80) : IsSmall c := by
  have hkept := h.wellFormed
  simp only [isWellFormed, Bool.and_eq_true] at hkept
  exact isSmall_of_isKept (List.all_eq_true.mp hkept.1.1.1 c hmem) hc

theorem isSmall_of_mem_encode (h : IsLabel l) : ∀ c ∈ Punycode.encode l, IsSmall c ∧ c ≠ '.' := by
  have hdigits : ∀ v < 36, IsSmall (Punycode.digitChar v) ∧ Punycode.digitChar v ≠ '.' := by decide
  intro c hc
  rcases Punycode.mem_encode hc with ⟨hmem, hascii⟩ | rfl | ⟨v, hv, rfl⟩
  · refine ⟨h.isSmall hmem hascii, ?_⟩
    rintro rfl
    exact h.dot hmem
  · decide
  · exact hdigits v hv

theorem isSmall_of_mem_printLabel (h : IsLabel l) : ∀ c ∈ printLabel l, IsSmall c ∧ c ≠ '.' := by
  intro c hc
  rw [printLabel] at hc
  split at hc
  · next hascii =>
    refine ⟨h.isSmall hc (of_decide_eq_true (List.all_eq_true.mp hascii c hc)), ?_⟩
    rintro rfl
    exact h.dot hc
  · have hmark : ∀ c ∈ ['x', 'n', '-', '-'], IsSmall c ∧ c ≠ '.' := by
      simp [IsSmall]
    rcases List.mem_append.mp hc with hc | hc
    · exact hmark c hc
    · exact isSmall_of_mem_encode h c hc

/-- A label is read as what it was written for. -/
theorem readLabel?_printLabel (h : IsLabel l) : readLabel? (printLabel l) = some l := by
  rw [printLabel]
  split
  · next hascii => simp [readLabel?, h.mark hascii]
  · next hascii =>
    have hafter : afterMark? (codedMark ++ Punycode.encode l) = some (Punycode.encode l) := by
      simp [afterMark?]
    have hcoded : isAscii (Punycode.encode l) = true :=
      isAscii_of_isSmall fun c hc => (isSmall_of_mem_encode h c hc).1
    simp [readLabel?, hafter, hcoded, Punycode.decode?_encode, Option.filter, hascii]

theorem isLabel_of_readLabel? (h : readLabel? s = some l) (hdot : '.' ∉ s)
    (hwell : isWellFormed l = true) : IsLabel l := by
  rw [readLabel?] at h
  split at h
  · next hmark =>
    obtain rfl := Option.some.inj h
    exact ⟨hwell, hdot, fun _ => hmark⟩
  · next rest hrest =>
    split at h
    · obtain ⟨hdecode, hascii⟩ := Option.filter_eq_some_iff.mp h
      have hsubset : ∀ c ∈ rest, c ∈ s := by
        rw [afterMark?] at hrest
        split at hrest
        · obtain rfl := Option.some.inj hrest
          intro c hc
          exact List.mem_of_mem_drop hc
        · cases hrest
      refine ⟨hwell, ?_, fun h => by simp [h] at hascii⟩
      intro hmem
      rcases Punycode.mem_of_decode? hdecode _ hmem with hc | hc
      · exact hdot (hsubset _ hc)
      · exact absurd hc (by decide)
    · cases h

/-! ### Names -/

/-- The labels of a name. -/
structure AreLabels (labels : List Label) : Prop where
  ne_nil : labels ≠ []
  isLabel : ∀ l ∈ labels, IsLabel l
  directions : directionsFit labels = true

theorem areLabels_of_labels? (h : labels? s = some labels) : AreLabels labels := by
  obtain ⟨mapped, -, h⟩ := Option.bind_eq_some_iff.mp h
  obtain ⟨read, hread, h⟩ := Option.bind_eq_some_iff.mp h
  split at h
  · next hfit =>
    obtain rfl := Option.some.inj h
    obtain ⟨hwell, hdirections⟩ := (Bool.and_eq_true _ _).mp hfit
    refine ⟨?_, ?_, hdirections⟩
    · rintro rfl
      obtain ⟨piece, pieces, hpieces⟩ := List.exists_cons_of_ne_nil (List.splitOn_ne_nil '.' mapped)
      simp [hpieces, List.mapM_cons, Option.bind_eq_some_iff] at hread
    · intro l hl
      obtain ⟨piece, hpiece, hlabel⟩ := Text.mem_of_mapM hread l hl
      have hfree := forall_mem_splitOnP (· == '.') mapped piece hpiece
      apply isLabel_of_readLabel? hlabel
      · intro hdot
        have hdot := hfree '.' hdot
        cases hdot
      · exact List.all_eq_true.mp hwell l hl
  · cases h

theorem mem_intercalate {pieces : List (List Char)} (h : c ∈ ['.'].intercalate pieces) :
    c = '.' ∨ ∃ piece ∈ pieces, c ∈ piece := by
  induction pieces with
  | nil => cases h
  | cons piece pieces ih =>
      cases pieces with
      | nil => exact .inr ⟨piece, by simp, by simpa using h⟩
      | cons next pieces =>
          rw [List.intercalate_cons_cons, List.append_assoc, List.mem_append, List.mem_append] at h
          rcases h with hpiece | hdot | hrest
          · exact .inr ⟨piece, by simp, hpiece⟩
          · exact .inl (List.mem_singleton.mp hdot)
          · apply (ih hrest).imp_right
            intro ⟨p, hp, hc⟩
            exact ⟨p, List.mem_cons_of_mem _ hp, hc⟩

theorem isSmall_of_mem_print (h : AreLabels labels) :
    ∀ c ∈ ['.'].intercalate (labels.map printLabel), IsSmall c := by
  intro c hc
  rcases mem_intercalate hc with rfl | ⟨piece, hpiece, hc⟩
  · decide
  · obtain ⟨l, hl, rfl⟩ := List.mem_map.mp hpiece
    exact (isSmall_of_mem_printLabel (h.isLabel l hl) c hc).1

theorem labels?_print (h : AreLabels labels) :
    labels? (['.'].intercalate (labels.map printLabel)) = some labels := by
  have hsmall := isSmall_of_mem_print h
  have hsplit : (['.'].intercalate (labels.map printLabel)).splitOn '.' =
      labels.map printLabel := by
    apply List.splitOn_intercalate
    · intro piece hpiece
      obtain ⟨l, hl, rfl⟩ := List.mem_map.mp hpiece
      intro hdot
      exact (isSmall_of_mem_printLabel (h.isLabel l hl) _ hdot).2 rfl
    · simpa using h.ne_nil
  have hread : (labels.map printLabel).mapM readLabel? = some labels :=
    Text.mapM_map_eq_some fun l hl => readLabel?_printLabel (h.isLabel l hl)
  have hwell : labels.all isWellFormed = true := by
    apply List.all_eq_true.mpr
    intro l hl
    exact (h.isLabel l hl).wellFormed
  simp only [labels?, mapText?_of_isSmall hsmall, Option.bind_eq_bind, Option.bind_some, hsplit,
    hread, hwell, h.directions, Bool.and_self, if_true]

/-! ### The ASCII form -/

theorem not_isForbidden (h : toAscii? s = some name) : ∀ c ∈ name, isForbidden c = false := by
  have hallowed := (Option.filter_eq_some_iff.mp h).2
  simpa using hallowed

/-- The ASCII form of a name is its own. -/
theorem toAscii?_self (h : toAscii? s = some name) : toAscii? name = some name := by
  obtain ⟨hconverted, hallowed⟩ := Option.filter_eq_some_iff.mp h
  apply Option.filter_eq_some_iff.mpr
  refine ⟨?_, hallowed⟩
  split at hconverted
  · next hplain =>
    obtain rfl := Option.some.inj hconverted
    obtain ⟨hascii, hcoded⟩ := (Bool.and_eq_true _ _).mp hplain
    have hsmall := isSmall_of_mem_lowerAscii hascii
    rw [lowerAscii_of_isSmall hsmall, isAscii_of_isSmall hsmall, hcoded]
    rfl
  · obtain ⟨labels, hlabels, rfl⟩ := Option.map_eq_some_iff.mp hconverted
    have hare := areLabels_of_labels? hlabels
    have hsmall := isSmall_of_mem_print hare
    rw [lowerAscii_of_isSmall hsmall, labels?_print hare]
    split <;> rfl

end EpisodeGuide.Url.Domain
