import EpisodeGuide.Json.Value
import Mathlib

/-! # Documents that are kept as values

A document has a value exactly if its numbers are in range, its surrogates pair up and its nesting
stays within the room there is. -/

namespace EpisodeGuide.Json

/-- Surrogates stand only in pairs, a high one and then a low one. -/
inductive Paired : List Piece → Prop where
  | nil : Paired []
  | char {ps} (c) : Paired ps → Paired (.char c :: ps)
  | code {u ps} : isHighSurrogate u = false → isLowSurrogate u = false → Paired ps →
      Paired (.code u :: ps)
  | pair {u v ps} : isHighSurrogate u = true → isLowSurrogate v = true → Paired ps →
      Paired (.code u :: .code v :: ps)

/-- A quoted text has characters exactly if its surrogates pair up. -/
theorem paired_iff (ps : List Piece) : Paired ps ↔ Piece.text? ps ≠ none := by
  rw [Piece.text?, Ne, Option.map_eq_none_iff]
  constructor
  · intro h
    induction h with
    | nil => simp [Piece.decode?]
    | char c _ ih => simpa [Piece.decode?] using ih
    | @code u ps hhigh hlow _ ih =>
        cases ps with
        | nil => simp [Piece.decode?, hhigh, hlow]
        | cons p ps => cases p <;> simpa [Piece.decode?, hhigh, hlow] using ih
    | pair hhigh hlow _ ih => simpa [Piece.decode?, hhigh, hlow] using ih
  · intro h
    fun_induction Piece.decode? ps with
    | case1 => exact .nil
    | case2 c ps ih => exact .char c (ih (by simpa using h))
    | case3 u v ps hhigh hlow ih => exact .pair hhigh hlow (ih (by simpa using h))
    | case4 | case5 => exact (h rfl).elim
    | case6 u v ps hhigh hlow ih =>
        exact .code (by simpa using hhigh) (by simpa using hlow) (ih (by simpa using h))
    | case7 => exact (h rfl).elim
    | case8 u ps _ hneither ih =>
        simp only [Bool.or_eq_true, not_or, Bool.not_eq_true] at hneither
        exact .code hneither.1 hneither.2 (ih (by simpa using h))

namespace Document

/-- What can be kept as a value with some more levels of nesting: numbers in range, texts whose
surrogates pair up, and arrays and objects of such documents with one level less. -/
inductive Kept : ℕ → Document → Prop where
  | null (room) : Kept room .null
  | bool (room b) : Kept room (.bool b)
  | number {n} (room) : n.value? ≠ none → Kept room (.number n)
  | text {ps} (room) : Paired ps → Kept room (.text ps)
  | array {room ds} : (∀ d ∈ ds, Kept room d) → Kept (room + 1) (.array ds)
  | object {room ms} : (∀ m ∈ ms, Paired m.1) → (∀ m ∈ ms, Kept room m.2) →
      Kept (room + 1) (.object ms)

end Document

variable {room : ℕ}

theorem itemValues?_eq_mapM (ds : List Document) :
    itemValues? room ds = ds.mapM (Document.value? room) := by
  induction ds with
  | nil => rfl
  | cons d ds ih =>
      rw [itemValues?, ih, List.mapM_cons]
      cases d.value? room with
      | none => rfl
      | some v => cases ds.mapM (Document.value? room) <;> rfl

theorem forall₂_itemValues {ds : List Document} {vs : List Value}
    (h : itemValues? room ds = some vs) :
    List.Forall₂ (fun d v => d.value? room = some v) ds vs := by
  induction ds generalizing vs with
  | nil =>
      obtain rfl : [] = vs := Option.some.inj h
      exact .nil
  | cons d ds ih =>
      unfold itemValues? at h
      split at h
      · next v ws hv hws =>
        obtain rfl : v :: ws = vs := Option.some.inj h
        exact .cons hv (ih hws)
      · cases h

theorem itemValues?_length {ds : List Document} {vs : List Value}
    (h : itemValues? room ds = some vs) : vs.length = ds.length :=
  (forall₂_itemValues h).length_eq.symm

theorem itemValues?_ne_none_iff {ds : List Document} :
    itemValues? room ds ≠ none ↔ ∀ d ∈ ds, d.value? room ≠ none := by
  induction ds with
  | nil => simp [itemValues?]
  | cons d ds ih =>
      rw [List.forall_mem_cons, ← ih, itemValues?]
      cases d.value? room <;> cases itemValues? room ds <;> simp

theorem memberValues?_ne_none_iff {ms : List (List Piece × Document)}
    {found : List (String × Value)} :
    memberValues? room ms found ≠ none ↔
      ∀ m ∈ ms, Paired m.1 ∧ m.2.value? room ≠ none := by
  induction ms generalizing found with
  | nil => simp [memberValues?]
  | cons m ms ih =>
      obtain ⟨k, d⟩ := m
      rw [List.forall_mem_cons, memberValues?, paired_iff]
      cases Piece.text? k with
      | none => simp
      | some key =>
          cases d.value? room with
          | none => simp
          | some v => simp only [ih, ne_eq, reduceCtorEq, not_false_eq_true, and_self, true_and]

/-- A document is kept exactly if it has a value. -/
theorem Document.kept_iff (room : ℕ) (d : Document) : Kept room d ↔ d.value? room ≠ none := by
  constructor
  · intro h
    induction h with
    | null | bool => simp [value?]
    | number _ h => simpa [value?] using h
    | text _ h => simpa [value?] using (paired_iff _).mp h
    | array _ ih => simpa [value?] using itemValues?_ne_none_iff.mpr ih
    | object hkeys _ ih =>
        simpa [value?] using memberValues?_ne_none_iff.mpr fun m hm => ⟨hkeys m hm, ih m hm⟩
  · intro h
    induction room using Nat.strong_induction_on generalizing d with
    | _ room ih =>
      cases d with
      | null => exact .null room
      | bool b => exact .bool room b
      | number n => exact .number room (by simpa [value?] using h)
      | text ps => exact .text room ((paired_iff ps).mpr (by simpa [value?] using h))
      | array ds =>
          cases room with
          | zero => simp [value?] at h
          | succ room =>
              have hds : itemValues? room ds ≠ none := by simpa [value?] using h
              refine .array fun d hd => ih room (Nat.lt_succ_self room) d ?_
              exact itemValues?_ne_none_iff.mp hds d hd
      | object ms =>
          cases room with
          | zero => simp [value?] at h
          | succ room =>
              have hms : memberValues? room ms [] ≠ none := by simpa [value?] using h
              have hmembers := memberValues?_ne_none_iff.mp hms
              exact .object (fun m hm => (hmembers m hm).1)
                fun m hm => ih room (Nat.lt_succ_self room) m.2 (hmembers m hm).2

/-! ### Numbers and texts -/

namespace Document

variable {d : Document}

/-- Numbers are kept at any depth, and come from nothing else. -/
theorem value?_eq_number_iff {number : Number} : d.value? room = some (.number number) ↔
    ∃ numeral, d = .number numeral ∧ numeral.value? = some number := by
  cases d with
  | null | bool | number | text => simp [value?]
  | array | object =>
      rw [value?]
      split <;> simp

theorem value?_eq_text_iff {t : String} : d.value? room = some (.text t) ↔
    ∃ ps, d = .text ps ∧ Piece.text? ps = some t := by
  cases d with
  | null | bool | number | text => simp [value?]
  | array | object =>
      rw [value?]
      split <;> simp

end Document

end EpisodeGuide.Json
