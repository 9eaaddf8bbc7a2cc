import EpisodeGuide.Toml.Document
import Mathlib.Data.List.Basic

/-! # What stands between the parts of a TOML document

Spaces and tabs may stand around keys and values, and line breaks and comments as well between the
items of an array. A value ends where the line, a comment or a separator follows. -/

namespace EpisodeGuide.Toml

/-- Spaces and tabs, or none. -/
def IsGap (s : List Char) : Prop :=
  ∀ c ∈ s, isSpace c = true

/-- What may stand between the items of an array. -/
inductive Between : List Char → Prop where
  | nil : Between []
  | blank {c s} : isSpace c = true ∨ c = '\n' → Between s → Between (c :: s)
  | comment {w s} : (∀ c ∈ w, isPlain c = true) → Between s → Between ('#' :: (w ++ '\n' :: s))

/-- The characters that can stand behind a value and the spaces after it. -/
def stoppers : List Char :=
  ['\n', '#', ',', ']', '\x7d']

/-- A text in front of which a value can end. -/
def Ends (rest : List Char) : Prop :=
  ∀ c ∈ (skipSpaces rest).head?, c ∈ stoppers

section

variable {c : Char} {gap s rest w : List Char}

theorem isGap_nil : IsGap [] :=
  List.forall_mem_nil _

theorem skipSpaces_append (h : IsGap gap) (s : List Char) : skipSpaces (gap ++ s) = skipSpaces s :=
  List.dropWhile_append_of_pos h

theorem skipSpaces_of_head (h : ∀ c ∈ s.head?, isSpace c = false) : skipSpaces s = s := by
  cases s with
  | nil => rfl
  | cons c s => exact List.dropWhile_cons_of_neg (by simp [h c rfl])

/-- A property of the characters of a list, as a test that goes through the list and not through
all characters. -/
theorem forall_mem_of_all {P : Char → Prop} [DecidablePred P] {cs : List Char}
    (h : cs.all (fun c => decide (P c)) = true) : ∀ c ∈ cs, P c := by
  simpa using h

/-! ### The ends of values -/

theorem Ends.head (h : Ends rest) : ∀ c ∈ rest.head?, c ∈ ' ' :: '\t' :: stoppers := by
  intro c hc
  cases hspace : isSpace c with
  | true =>
      rcases (by simpa [isSpace] using hspace : c = ' ' ∨ c = '\t') with rfl | rfl <;> simp
  | false =>
      have hfirst : skipSpaces rest = rest := skipSpaces_of_head fun x hx => by
        obtain rfl : c = x := Option.some.inj (hc.symm.trans hx)
        exact hspace
      rw [Ends, hfirst] at h
      simp [h c hc]

/-- A property of all characters that can stand behind a value. -/
theorem Ends.forall_head {P : Char → Prop} [DecidablePred P] (h : Ends rest)
    (hP : (' ' :: '\t' :: stoppers).all (fun c => decide (P c)) = true) : ∀ c ∈ rest.head?, P c :=
  fun c hc => forall_mem_of_all hP c (h.head c hc)

theorem ends_cons_iff (hc : isSpace c = true) : Ends (c :: rest) ↔ Ends rest := by
  rw [Ends, skipSpaces, List.dropWhile_cons_of_pos hc]
  rfl

theorem Ends.of_stopper (h : c ∈ stoppers) (rest : List Char) : Ends (c :: rest) := by
  have hspace : ∀ c ∈ stoppers, isSpace c = false := forall_mem_of_all (by decide)
  rw [Ends, skipSpaces_of_head (by simpa using hspace c h)]
  simpa using h

theorem Ends.nil : Ends [] := by
  simp [Ends, skipSpaces]

theorem Ends.gap_append (hgap : IsGap gap) (h : Ends rest) : Ends (gap ++ rest) := by
  rwa [Ends, skipSpaces_append hgap]

theorem Between.ends (h : Between gap) (hc : c ∈ stoppers) (rest : List Char) :
    Ends (gap ++ c :: rest) := by
  induction h with
  | nil => exact .of_stopper hc rest
  | @blank x s hx _ ih =>
      rcases hx with hx | rfl
      · exact (ends_cons_iff hx).mpr ih
      · exact .of_stopper (by decide) _
  | comment _ _ _ => exact .of_stopper (by decide) _

/-! ### Gaps are passed over -/

theorem skipBetween_comment (h : ∀ c ∈ w, isPlain c = true) (s : List Char) :
    skipBetween true (w ++ '\n' :: s) = skipBetween false s := by
  induction w with
  | nil => simp [skipBetween]
  | cons c w ih =>
      obtain ⟨hc, hw⟩ := List.forall_mem_cons.mp h
      have hbreak : c ≠ '\n' := by rintro rfl; cases hc
      simp [skipBetween, hc, hbreak, ih hw]

theorem skipBetween_append (h : Between gap) (hs : isSpace c = false ∧ c ≠ '\n' ∧ c ≠ '#') :
    skipBetween false (gap ++ c :: s) = some (c :: s) := by
  induction h with
  | nil => simp [skipBetween, hs]
  | @blank x gap hx _ ih =>
      rcases hx with hx | rfl
      · have hbreak : x ≠ '\n' := by rintro rfl; cases hx
        simp [skipBetween, hx, hbreak, ih]
      · simp [skipBetween, ih]
  | comment hw _ ih =>
      rw [List.cons_append, List.append_assoc, List.cons_append, skipBetween]
      simp [skipBetween_comment hw, ih, isSpace]

theorem endLine_gap (h : IsGap gap) (rest : List Char) :
    endLine (gap ++ '\n' :: rest) = some rest := by
  rw [endLine, skipSpaces_append h]
  rfl

theorem endLine_last (h : IsGap gap) : endLine gap = some [] := by
  have hskip := skipSpaces_append h []
  rw [List.append_nil] at hskip
  rw [endLine, hskip]
  rfl

end

end EpisodeGuide.Toml
