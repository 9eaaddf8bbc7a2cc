import EpisodeGuide.Proofs.Json.Printing
import Mathlib.Data.List.Basic

/-! # Values that come back

A value whose numbers are integers and which is not nested too deep is read back from its text. The
members of an object are held in the order of their keys, so they are found in that order again. -/

namespace EpisodeGuide.Json

/-- A value without double-width numbers, with at most `room` levels of nesting. -/
inductive Value.Portable : ℕ → Value → Prop where
  | null {room} : Portable room .null
  | bool {room} (b) : Portable room (.bool b)
  | integer {room i} : FitsNumeral i → Portable room (.number (.integer i))
  | text {room} (s) : Portable room (.text s)
  | array {room vs} : (∀ v ∈ vs, Portable room v) → Portable (room + 1) (.array vs)
  | object {room ms} : ms.Pairwise (fun m m' => m.1 < m'.1) → (∀ m ∈ ms, Portable room m.2) →
      Portable (room + 1) (.object ms)

variable {room : ℕ} {v : Value} {key : String} {found ms : List (String × Value)}

theorem Value.Portable.whole (h : v.Portable room) : v.Whole := by
  induction h with
  | null => exact .null
  | bool b => exact .bool b
  | integer hi => exact .integer hi
  | text s => exact .text s
  | array _ ih => exact .array ih
  | object _ _ ih => exact .object ih

/-- A member whose key comes after all others goes to the end. -/
theorem insertMember_last (h : ∀ m ∈ found, m.1 < key) (v : Value) :
    insertMember key v found = found ++ [(key, v)] := by
  induction found with
  | nil => rfl
  | cons m found ih =>
      obtain ⟨k, w⟩ := m
      obtain ⟨hk, hfound⟩ := List.forall_mem_cons.mp h
      have hafter : ¬ key < k := String.lt_asymm hk
      have hother : key ≠ k := by
        rintro rfl
        exact String.lt_irrefl key hk
      rw [insertMember, if_neg hafter, if_neg hother, ih hfound, List.cons_append]

theorem itemValues?_itemDocuments {vs : List Value}
    (h : ∀ v ∈ vs, v.document.value? room = some v) :
    itemValues? room (Value.itemDocuments vs) = some vs := by
  induction vs with
  | nil => rfl
  | cons v vs ih =>
      obtain ⟨hv, hvs⟩ := List.forall_mem_cons.mp h
      rw [Value.itemDocuments, itemValues?, hv, ih hvs]

theorem memberValues?_memberDocuments (hsorted : (found ++ ms).Pairwise fun m m' => m.1 < m'.1)
    (h : ∀ m ∈ ms, m.2.document.value? room = some m.2) :
    memberValues? room (Value.memberDocuments ms) found = some (found ++ ms) := by
  induction ms generalizing found with
  | nil => rw [Value.memberDocuments, memberValues?, List.append_nil]
  | cons m ms ih =>
      obtain ⟨k, v⟩ := m
      obtain ⟨hv, hms⟩ := List.forall_mem_cons.mp h
      have hlast : ∀ m ∈ found, m.1 < k := fun m hm =>
        (List.pairwise_append.mp hsorted).2.2 m hm (k, v) (by simp)
      rw [Value.memberDocuments, memberValues?, text?_quoting, hv]
      simp only
      rw [insertMember_last hlast, ih (by simpa using hsorted) hms, List.append_assoc,
        List.singleton_append]

/-- The document of a value denotes that value. -/
theorem Value.Portable.value?_document (h : v.Portable room) : v.document.value? room = some v := by
  induction h with
  | null => rfl
  | bool b => rfl
  | integer hi => rw [document, Document.value?, (numeral_integer hi).2, Option.map_some]
  | text s => rw [document, Document.value?, text?_quoting, Option.map_some]
  | @array room vs _ ih =>
      rw [document, Document.value?, if_neg (Nat.succ_ne_zero room), Nat.add_sub_cancel,
        itemValues?_itemDocuments ih, Option.map_some]
  | @object room ms hsorted _ ih =>
      rw [document, Document.value?, if_neg (Nat.succ_ne_zero room), Nat.add_sub_cancel,
        memberValues?_memberDocuments (by simpa using hsorted) ih, Option.map_some, List.nil_append]

/-- The text of a value within the limit of nesting is read as that value. -/
theorem Value.Portable.ofText?_compactText (h : v.Portable maxDepth) :
    Value.ofText? v.compactText = some v := by
  rw [Value.ofText?, h.whole.ofText?_compactText, Option.bind_some, h.value?_document]

end EpisodeGuide.Json
