import Mathlib.Data.List.Induction

/-! # Histories

Every entry of a history changes what is held. Where it sets a value, takes it away or leaves it,
the value at the end is the one that was set last, unless an entry behind took it away. -/

namespace EpisodeGuide.History

variable {α β : Type*}

section Along

variable {σ : Type*}

/-- Every entry fits what is held when its turn comes. -/
def Along (keep : σ → α → σ) (Fits : σ → α → Prop) : σ → List α → Prop
  | _, [] => True
  | held, a :: as => Fits held a ∧ Along keep Fits (keep held a) as

variable {keep : σ → α → σ} {Fits : σ → α → Prop}

theorem along_append (held : σ) (xs ys : List α) :
    Along keep Fits held (xs ++ ys) ↔
      Along keep Fits held xs ∧ Along keep Fits (xs.foldl keep held) ys := by
  induction xs generalizing held with
  | nil => simp [Along]
  | cons x xs ih => simp [Along, ih, and_assoc]

theorem Along.fits {held : σ} {before after : List α} {a : α}
    (h : Along keep Fits held (before ++ a :: after)) : Fits (before.foldl keep held) a :=
  ((along_append held before (a :: after)).mp h).2.1

end Along

/-- Either no entry has a property, or there is a last one that has it. -/
theorem eq_append_last (p : α → Prop) (as : List α) :
    (∀ a ∈ as, ¬ p a) ∨
      ∃ before a after, as = before ++ a :: after ∧ p a ∧ ∀ x ∈ after, ¬ p x := by
  induction as using List.reverseRecOn with
  | nil => simp
  | append_singleton as a ih =>
      by_cases ha : p a
      · exact .inr ⟨as, a, [], rfl, ha, by simp⟩
      · rcases ih with hnone | ⟨before, b, after, rfl, hb, hafter⟩
        · refine .inl ?_
          rw [List.forall_mem_append, List.forall_mem_singleton]
          exact ⟨hnone, ha⟩
        · refine .inr ⟨before, b, after ++ [a], by simp, hb, ?_⟩
          rw [List.forall_mem_append, List.forall_mem_singleton]
          exact ⟨hafter, ha⟩

/-- An entry of two histories in a row is one of the first or one of the second. -/
theorem append_eq_split {xs ys before after : List α} {a : α}
    (h : xs ++ ys = before ++ a :: after) :
    (∃ rest, xs = before ++ a :: rest ∧ after = rest ++ ys) ∨
      ∃ head, before = xs ++ head ∧ ys = head ++ a :: after := by
  rcases List.append_eq_append_iff.mp h with ⟨head, rfl, rfl⟩ | ⟨rest, rfl, hrest⟩
  · exact .inr ⟨head, rfl, rfl⟩
  · cases rest with
    | nil => exact .inr ⟨[], by simp, hrest.symm⟩
    | cons b rest =>
        obtain ⟨rfl, rfl⟩ := List.cons.inj hrest
        exact .inl ⟨rest, rfl, rfl⟩

variable {keep : Option β → α → Option β} {Sets : α → β → Prop} {Leaves : α → Prop}

theorem foldl_of_leaves (hleaves : ∀ a, Leaves a → ∀ held, keep held a = held) {as : List α}
    (h : ∀ a ∈ as, Leaves a) (held : Option β) : as.foldl keep held = held := by
  induction as generalizing held with
  | nil => rfl
  | cons a as ih =>
      obtain ⟨ha, has⟩ := List.forall_mem_cons.mp h
      rw [List.foldl_cons, hleaves a ha, ih has]

/-- A value is held at the end exactly when the last entry that does anything sets it, or no
entry does anything and it was held before. -/
theorem foldl_eq_some_iff (hsets : ∀ a b, Sets a b → ∀ held, keep held a = some b)
    (hleaves : ∀ a, Leaves a → ∀ held, keep held a = held)
    (hclears : ∀ a, (∃ b, Sets a b) ∨ Leaves a ∨ ∀ held, keep held a = none)
    (held : Option β) (as : List α) (b : β) :
    as.foldl keep held = some b ↔
      (held = some b ∧ ∀ a ∈ as, Leaves a) ∨
        ∃ before a after, as = before ++ a :: after ∧ Sets a b ∧ ∀ x ∈ after, Leaves x := by
  constructor
  · intro h
    induction as using List.reverseRecOn with
    | nil => exact .inl ⟨h, by simp⟩
    | append_singleton as a ih =>
        rw [List.foldl_append, List.foldl_cons, List.foldl_nil] at h
        rcases hclears a with ⟨b', hb'⟩ | ha | ha
        · obtain rfl : b' = b := by simpa [hsets a b' hb'] using h
          exact .inr ⟨as, a, [], rfl, hb', by simp⟩
        · rw [hleaves a ha] at h
          rcases ih h with ⟨hheld, has⟩ | ⟨before, x, after, rfl, hx, hafter⟩
          · refine .inl ⟨hheld, ?_⟩
            rw [List.forall_mem_append, List.forall_mem_singleton]
            exact ⟨has, ha⟩
          · refine .inr ⟨before, x, after ++ [a], by simp, hx, ?_⟩
            rw [List.forall_mem_append, List.forall_mem_singleton]
            exact ⟨hafter, ha⟩
        · simp [ha] at h
  · rintro (⟨rfl, has⟩ | ⟨before, a, after, rfl, ha, hafter⟩)
    · exact foldl_of_leaves hleaves has _
    · rw [List.foldl_append, List.foldl_cons, hsets a b ha, foldl_of_leaves hleaves hafter]

end EpisodeGuide.History
