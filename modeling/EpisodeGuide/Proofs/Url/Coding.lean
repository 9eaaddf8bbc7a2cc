import EpisodeGuide.Proofs.Url.Percent

/-! # Texts that need no coding

Coding leaves characters of ASCII that are outside its set, percent signs and digits. None of
these is in any of the sets that normal parts of a URL are coded by, so coding them again
changes nothing. -/

namespace EpisodeGuide.Url

open EpisodeGuide.Text

variable {set set' : Char → Bool} {s : List Char} {c : Char}

/-- Characters of ASCII outside a set. -/
def Plain (set : Char → Bool) (s : List Char) : Prop :=
  ∀ c ∈ s, c.toNat < 0x80 ∧ set c = false

theorem Plain.notMem (h : Plain set s) (hc : set c = true) : c ∉ s := fun hmem => by
  rw [(h c hmem).2] at hc
  cases hc

theorem percentEncode_of_plain (h : Plain set s) : percentEncode set s = s := by
  induction s with
  | nil => rfl
  | cons c s ih =>
      obtain ⟨⟨hascii, hset⟩, hs⟩ := List.forall_mem_cons.mp h
      have hchar : percentChar set c = [c] := by simp [percentChar, hascii, hset]
      rw [percentEncode, List.flatMap_cons, hchar]
      exact congrArg (c :: ·) (ih hs)

/-- The percent sign and the digits that bytes are written with. -/
def codeChars : List Char :=
  ['%', '0', '1', '2', '3', '4', '5', '6', '7', '8', '9', 'A', 'B', 'C', 'D', 'E', 'F']

theorem mem_codeChars_of_percentByte {b : UInt8} (h : c ∈ percentByte b) : c ∈ codeChars := by
  rcases mem_percentByte h with rfl | ⟨n, hn, rfl⟩
  · decide
  · clear h
    decide +revert

theorem mem_percentEncode (h : c ∈ percentEncode set s) :
    (c ∈ s ∧ c.toNat < 0x80 ∧ set c = false) ∨ c ∈ codeChars := by
  obtain ⟨x, hx, hmem⟩ := List.mem_flatMap.mp h
  unfold percentChar at hmem
  split at hmem
  · next hplain =>
    obtain rfl := List.mem_singleton.mp hmem
    exact .inl ⟨hx, by simpa using hplain⟩
  · obtain ⟨b, -, hb⟩ := List.mem_flatMap.mp hmem
    exact .inr (mem_codeChars_of_percentByte hb)

/-- A coded text needs no coding by a smaller set, as long as that spares the code itself. -/
theorem plain_percentEncode (hsub : ∀ c, set c = false → set' c = false)
    (hcode : codeChars.all (fun c => !set' c) = true) (s : List Char) :
    Plain set' (percentEncode set s) := by
  intro c hc
  rcases mem_percentEncode hc with ⟨-, hascii, hset⟩ | hc
  · exact ⟨hascii, hsub c hset⟩
  · have hascii : ∀ c ∈ codeChars, c.toNat < 0x80 := by simp [codeChars]
    exact ⟨hascii c hc, by simpa using List.all_eq_true.mp hcode c hc⟩

/-! ### The sets of the parts of a URL -/

theorem plain_fragment (s : List Char) : Plain inFragmentSet (percentEncode inFragmentSet s) :=
  plain_percentEncode (fun _ h => h) (by cbv) s

theorem plain_path (s : List Char) : Plain inPathSet (percentEncode inPathSet s) :=
  plain_percentEncode (fun _ h => h) (by cbv) s

theorem plain_userinfo (s : List Char) : Plain inUserinfoSet (percentEncode inUserinfoSet s) :=
  plain_percentEncode (fun _ h => h) (by cbv) s

theorem plain_query (s : List Char) : Plain (inQuerySet true) (percentEncode (inQuerySet true) s) :=
  plain_percentEncode (fun _ h => h) (by cbv) s

theorem inPathSet_of_inSegmentSet {special : Bool} (h : inSegmentSet special c = false) :
    inPathSet c = false := by
  simp only [inSegmentSet, Bool.or_eq_false_iff] at h
  exact h.1.1.1

/-- What is coded as a segment is coded as a part of a path, too. -/
theorem plain_segment (special : Bool) (s : List Char) :
    Plain inPathSet (percentEncode (inSegmentSet special) s) :=
  plain_percentEncode (fun _ h => inPathSet_of_inSegmentSet h) (by cbv) s

/-! ### Visible characters -/

theorem isControl_of_inFragmentSet (h : inFragmentSet c = false) : isControl c = false := by
  simp only [inFragmentSet, Bool.or_eq_false_iff] at h
  exact h.1

theorem isControl_of_inPathSet (h : inPathSet c = false) : isControl c = false := by
  simp only [inPathSet, Bool.or_eq_false_iff] at h
  exact isControl_of_inFragmentSet h.1

theorem isControl_of_inUserinfoSet (h : inUserinfoSet c = false) : isControl c = false := by
  simp only [inUserinfoSet, Bool.or_eq_false_iff] at h
  exact isControl_of_inPathSet h.1

theorem isControl_of_inQuerySet {special : Bool} (h : inQuerySet special c = false) :
    isControl c = false := by
  simp only [inQuerySet, Bool.or_eq_false_iff] at h
  exact h.1.1

theorem visible_of_isControl {c : Char} (h : isControl c = false) (hspace : c ≠ ' ') :
    0x20 < c.toNat := by
  have hne : c.toNat ≠ ' '.toNat := fun heq => hspace (Char.toNat_inj.mp heq)
  have hvalue : ' '.toNat = 0x20 := rfl
  simp only [isControl, Bool.or_eq_false_iff, decide_eq_false_iff_not] at h
  omega

/-- Where control characters and the space are coded, what is left is visible. -/
theorem Plain.visible (h : Plain set s) (hcontrol : ∀ c, set c = false → isControl c = false)
    (hspace : set ' ' = true) : ∀ c ∈ s, 0x20 < c.toNat := fun c hc =>
  visible_of_isControl (hcontrol c (h c hc).2) fun heq => h.notMem hspace (heq ▸ hc)

end EpisodeGuide.Url
