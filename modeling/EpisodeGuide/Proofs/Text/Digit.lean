import EpisodeGuide.Text.Digit
import Mathlib.Data.List.Induction
import Mathlib.Data.List.TakeWhile

/-! # Numbers read back

The digits of a number, written in a base, are read as that number again. A text is read as a
decimal number exactly if it is the digits of the number, with any zeros in front. -/

namespace EpisodeGuide.Text

variable {base : ℕ} {value? : Char → Option ℕ}

theorem ofDigits_concat (base : ℕ) (ds : List ℕ) (d : ℕ) :
    ofDigits base (ds ++ [d]) = ofDigits base ds * base + d := by
  simp [ofDigits]

theorem ofDigits_lt {ds : List ℕ} (h : ∀ d ∈ ds, d < base) :
    ofDigits base ds < Nat.pow base ds.length := by
  induction ds using List.reverseRecOn with
  | nil => exact Nat.zero_lt_one
  | append_singleton ds d ih =>
      rw [List.forall_mem_append, List.forall_mem_singleton] at h
      obtain ⟨hds, hd⟩ := h
      calc ofDigits base (ds ++ [d])
          = ofDigits base ds * base + d := ofDigits_concat base ds d
        _ < (ofDigits base ds + 1) * base := by rw [Nat.add_mul, Nat.one_mul]; omega
        _ ≤ Nat.pow base ds.length * base := Nat.mul_le_mul_right base (ih hds)
        _ = Nat.pow base (ds ++ [d]).length := by rw [List.length_append]; rfl

theorem mapM_eq_some_map {α β : Type} {f : α → Option β} {g : α → β} {xs : List α}
    (h : ∀ x ∈ xs, f x = some (g x)) : xs.mapM f = some (xs.map g) := by
  induction xs with
  | nil => rfl
  | cons x xs ih =>
      obtain ⟨hx, hxs⟩ := List.forall_mem_cons.mp h
      rw [List.mapM_cons, hx, ih hxs]
      rfl

/-- What is written item by item is read item by item. -/
theorem mapM_map_eq_some {α β : Type} {f : α → Option β} {g : β → α} {ys : List β}
    (h : ∀ y ∈ ys, f (g y) = some y) : (ys.map g).mapM f = some ys := by
  rw [List.mapM_map]
  have hread := mapM_eq_some_map (f := f ∘ g) (g := id) h
  rwa [List.map_id] at hread

theorem mem_of_mapM {α β : Type} {f : α → Option β} {xs : List α} {ys : List β}
    (h : xs.mapM f = some ys) : ∀ y ∈ ys, ∃ x ∈ xs, f x = some y := by
  induction xs generalizing ys with
  | nil =>
      obtain rfl : [] = ys := by simpa using h
      simp
  | cons x xs ih =>
      simp only [List.mapM_cons, Option.bind_eq_bind, Option.bind_eq_some_iff, Option.pure_def,
        Option.some.injEq] at h
      obtain ⟨y, hy, rest, hrest, rfl⟩ := h
      intro z hz
      rcases List.mem_cons.mp hz with rfl | hz
      · exact ⟨x, by simp, hy⟩
      · obtain ⟨x', hx', hread⟩ := ih hrest z hz
        exact ⟨x', by simp [hx'], hread⟩

/-- Where every character has a value, the values are those that are found. -/
theorem filterMap_of_mapM {s : List Char} {ds : List ℕ} (h : s.mapM value? = some ds) :
    s.filterMap value? = ds ∧ (∀ c ∈ s, (value? c).isSome = true) ∧ ds.length = s.length := by
  induction s generalizing ds with
  | nil =>
      obtain rfl : [] = ds := by simpa using h
      simp
  | cons c s ih =>
      rw [List.mapM_cons] at h
      cases hc : value? c with
      | none => simp [hc] at h
      | some d =>
          cases hs : s.mapM value? with
          | none => simp [hc, hs] at h
          | some rest =>
              obtain rfl : d :: rest = ds := by simpa [hc, hs] using h
              obtain ⟨hvalues, hall, hlength⟩ := ih hs
              simpa [hc, hvalues, hlength] using hall

/-! ### Digits that are written -/

theorem hexDigit?_digitChar {d : ℕ} (h : d < 16) : hexDigit? (Nat.digitChar d) = some d := by
  decide +revert

theorem digit?_digitChar {d : ℕ} (h : d < 10) : digit? (Nat.digitChar d) = some d := by
  decide +revert

theorem mapM_toDigits (hbase : 1 < base) (hvalue : ∀ d < base, value? (Nat.digitChar d) = some d)
    (n : ℕ) : ∃ ds, (Nat.toDigits base n).mapM value? = some ds ∧ ofDigits base ds = n := by
  induction n using Nat.strongRecOn with
  | ind n ih =>
      by_cases hn : n < base
      · rw [Nat.toDigits_of_lt_base hn]
        exact ⟨[n], by simp [hvalue n hn], by simp [ofDigits]⟩
      · have hle := Nat.le_of_not_lt hn
        obtain ⟨ds, hds, hvalue'⟩ := ih (n / base) (Nat.div_lt_self (by omega) hbase)
        have hlast := hvalue (n % base) (Nat.mod_lt n (by omega))
        rw [Nat.toDigits_of_base_le hbase hle, List.mapM_append, hds]
        refine ⟨ds ++ [n % base], by simp [hlast], ?_⟩
        rw [ofDigits_concat, hvalue', Nat.div_add_mod']

theorem exists_of_mem_toDigits (hbase : 1 < base) {n : ℕ} {c : Char}
    (h : c ∈ Nat.toDigits base n) : ∃ d < base, c = Nat.digitChar d := by
  induction n using Nat.strongRecOn with
  | ind n ih =>
      by_cases hn : n < base
      · rw [Nat.toDigits_of_lt_base hn] at h
        exact ⟨n, hn, List.mem_singleton.mp h⟩
      · rw [Nat.toDigits_of_base_le hbase (Nat.le_of_not_lt hn)] at h
        rcases List.mem_append.mp h with h | h
        · exact ih (n / base) (Nat.div_lt_self (by omega) hbase) h
        · exact ⟨n % base, Nat.mod_lt n (by omega), List.mem_singleton.mp h⟩

/-- A decimal number is taken from the start of a text as a whole. -/
theorem takeDigits_toDigits (n : ℕ) :
    ∃ ds, takeDigits (Nat.toDigits 10 n) = (ds, []) ∧ ds ≠ [] ∧ ofDigits 10 ds = n := by
  obtain ⟨ds, hds, hvalue⟩ := mapM_toDigits (by decide) (fun d hd => digit?_digitChar hd) n
  obtain ⟨hvalues, hall, hlength⟩ := filterMap_of_mapM hds
  have htake : (Nat.toDigits 10 n).takeWhile isDigit = Nat.toDigits 10 n :=
    List.takeWhile_eq_self_iff.mpr hall
  have hdrop : (Nat.toDigits 10 n).dropWhile isDigit = [] := List.dropWhile_eq_nil_iff.mpr hall
  refine ⟨ds, by rw [takeDigits, htake, hdrop, hvalues], ?_, hvalue⟩
  rintro rfl
  exact Nat.toDigits_ne_nil (List.length_eq_zero_iff.mp hlength.symm)

/-! ### Digits that are read -/

theorem digit?_eq_some_iff {c : Char} {d : ℕ} :
    digit? c = some d ↔ d < 10 ∧ c = Nat.digitChar d := by
  constructor
  · intro h
    unfold digit? at h
    split at h
    · next hc =>
      obtain rfl := Option.some.inj h
      have hchar : ∀ d < 10, (Nat.digitChar d).toNat = '0'.toNat + d := by decide
      have hlow : '0'.toNat ≤ c.toNat := hc.1
      have hhigh : c.toNat ≤ '0'.toNat + 9 := hc.2
      have hd : c.toNat - '0'.toNat < 10 := by omega
      refine ⟨hd, Char.toNat_inj.mp ?_⟩
      rw [hchar _ hd]
      omega
    · cases h
  · rintro ⟨hd, rfl⟩
    exact digit?_digitChar hd

theorem mapM_zeros (zeros : ℕ) :
    (List.replicate zeros '0').mapM digit? = some (List.replicate zeros 0) := by
  have hzero : ∀ c ∈ List.replicate zeros '0', digit? c = some 0 := by
    intro c hc
    rw [List.eq_of_mem_replicate hc]
    rfl
  rw [mapM_eq_some_map (g := fun _ => 0) hzero, List.map_replicate]

theorem ofDigits_zeros (zeros : ℕ) (ds : List ℕ) :
    ofDigits 10 (List.replicate zeros 0 ++ ds) = ofDigits 10 ds := by
  induction zeros with
  | zero => rfl
  | succ zeros ih => simpa [ofDigits, List.replicate_succ] using ih

/-- One more digit behind those of a number with zeros in front. -/
theorem exists_zeros_concat {zeros m d : ℕ} (hd : d < 10) :
    ∃ zeros', List.replicate zeros '0' ++ Nat.toDigits 10 m ++ [Nat.digitChar d] =
      List.replicate zeros' '0' ++ Nat.toDigits 10 (m * 10 + d) := by
  rcases Nat.eq_zero_or_pos m with rfl | hm
  · refine ⟨zeros + 1, ?_⟩
    rw [Nat.zero_mul, Nat.zero_add, Nat.toDigits_of_lt_base hd, List.replicate_succ']
    rfl
  · refine ⟨zeros, ?_⟩
    rw [List.append_assoc, ← Nat.toDigits_of_lt_base hd,
      Nat.toDigits_append_toDigits (by decide) hm hd, Nat.mul_comm]

theorem exists_zeros {s : List Char} {ds : List ℕ} (h : s.mapM digit? = some ds) (hne : s ≠ []) :
    ∃ zeros, s = List.replicate zeros '0' ++ Nat.toDigits 10 (ofDigits 10 ds) := by
  induction s using List.reverseRecOn generalizing ds with
  | nil => exact (hne rfl).elim
  | append_singleton s c ih =>
      rw [List.mapM_append] at h
      simp only [Option.bind_eq_bind, Option.bind_eq_some_iff, List.mapM_cons, List.mapM_nil,
        Option.pure_def, Option.some.injEq] at h
      obtain ⟨front, hfront, _, ⟨d, hc, _, rfl, rfl⟩, rfl⟩ := h
      obtain ⟨hd, rfl⟩ := digit?_eq_some_iff.mp hc
      rw [ofDigits_concat]
      by_cases hs : s = []
      · subst hs
        obtain rfl : [] = front := by simpa using hfront
        refine ⟨0, ?_⟩
        rw [ofDigits, List.foldl_nil, Nat.zero_mul, Nat.zero_add, Nat.toDigits_of_lt_base hd]
        rfl
      · obtain ⟨zeros, heq⟩ := ih hfront hs
        rw [heq]
        exact exists_zeros_concat hd

/-- A text is read as a number exactly if it is the digits of the number with zeros in front. -/
theorem natural?_eq_some_iff {s : List Char} {n : ℕ} :
    natural? s = some n ↔ ∃ zeros, s = List.replicate zeros '0' ++ Nat.toDigits 10 n := by
  unfold natural?
  constructor
  · intro h
    split at h
    · cases h
    · next hempty =>
      obtain ⟨ds, hds, rfl⟩ := Option.map_eq_some_iff.mp h
      exact exists_zeros hds (by simpa using hempty)
  · rintro ⟨zeros, rfl⟩
    obtain ⟨ds, hds, hvalue⟩ := mapM_toDigits (by decide) (fun d hd => digit?_digitChar hd) n
    rw [if_neg (by simp [Nat.toDigits_ne_nil]), List.mapM_append, mapM_zeros, hds]
    simp [ofDigits_zeros, hvalue]

end EpisodeGuide.Text
