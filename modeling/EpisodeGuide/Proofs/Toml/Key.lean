import EpisodeGuide.Proofs.Toml.Quoted

/-! # Keys of TOML

What keys look like, and which of them can stand in one table. Dotted keys share the tables that
they lead through, so two keys are apart when neither leads to the value of the other or through
it. -/

namespace EpisodeGuide.Toml

/-! ### What keys look like -/

/-- One part of a key, bare or in quotes. -/
inductive KeyPart : List Char → String → Prop where
  | bare {w} : w ≠ [] → (∀ c ∈ w, isBareKeyChar c = true) → KeyPart w (String.ofList w)
  | quoted {w t} : QuotedText w t → KeyPart w (String.ofList t)

/-- A key: the parts before the last, and the last. -/
inductive KeyText : List Char → List String × String → Prop where
  | last {w k} : KeyPart w k → KeyText w ([], k)
  | dotted {w k gap gap' s path key} : KeyPart w k → IsGap gap → IsGap gap' →
      KeyText s (path, key) → KeyText (w ++ (gap ++ '.' :: (gap' ++ s))) (k :: path, key)

/-- A key and the equals sign behind it. -/
inductive KeyEquals : List Char → List String × String → Prop where
  | equals {gap k gap' gap'' key} : IsGap gap → KeyText k key → IsGap gap' → IsGap gap'' →
      KeyEquals (gap ++ (k ++ (gap' ++ '=' :: gap''))) key

/-- The characters that a key can start with. -/
def StartsKey (c : Char) : Prop :=
  isBareKeyChar c = true ∨ c = '"' ∨ c = '\''

section

variable {c : Char} {s w gap gap' rest : List Char} {k : String} {key : List String × String}

theorem StartsKey.not_space (h : StartsKey c) : isSpace c = false := by
  cases hc : isSpace c with
  | false => rfl
  | true =>
      rcases (by simpa [isSpace] using hc : c = ' ' ∨ c = '\t') with rfl | rfl <;>
        exact absurd h (by unfold StartsKey; decide)

theorem KeyPart.head (h : KeyPart w k) : ∃ c r, w = c :: r ∧ StartsKey c := by
  cases h with
  | bare hne hw =>
      obtain ⟨c, r, rfl⟩ := List.exists_cons_of_ne_nil hne
      exact ⟨c, r, rfl, .inl (hw c (by simp))⟩
  | quoted hw =>
      cases hw with
      | basic => exact ⟨_, _, rfl, .inr (.inl rfl)⟩
      | literal => exact ⟨_, _, rfl, .inr (.inr rfl)⟩

theorem KeyText.head (h : KeyText s key) : ∃ c r, s = c :: r ∧ StartsKey c := by
  cases h with
  | last hw => exact hw.head
  | dotted hw =>
      obtain ⟨c, r, rfl, hc⟩ := hw.head
      exact ⟨c, _, rfl, hc⟩

theorem takeKeyPart_of_keyPart (h : KeyPart w k)
    (hrest : ∀ c ∈ rest.head?, isBareKeyChar c = false) :
    takeKeyPart (w ++ rest) = some (k, rest) := by
  cases h with
  | bare hne hw =>
      obtain ⟨c, r, rfl⟩ := List.exists_cons_of_ne_nil hne
      have hbare : isBareKeyChar c = true := hw c (by simp)
      have hquote : c ≠ '"' := by rintro rfl; exact absurd hbare (by decide)
      have hquote' : c ≠ '\'' := by rintro rfl; exact absurd hbare (by decide)
      have htake : (c :: r ++ rest).takeWhile isBareKeyChar = c :: r := by
        rw [List.takeWhile_append_of_pos hw]
        cases rest with
        | nil => simp
        | cons x rest => rw [List.takeWhile_cons_of_neg (by simp [hrest x rfl]), List.append_nil]
      have hdrop : (c :: r ++ rest).dropWhile isBareKeyChar = rest := by
        rw [List.dropWhile_append_of_pos hw]
        cases rest with
        | nil => rfl
        | cons x rest => exact List.dropWhile_cons_of_neg (by simp [hrest x rfl])
      rw [List.cons_append] at htake hdrop ⊢
      simp [takeKeyPart, hquote, hquote', htake, hdrop]
  | quoted hw =>
      have hread := takeQuoted_of_quotedText hw rest
      cases hw <;> simp_all [takeKeyPart]

/-! ### Keys are read -/

/-- A bare part of a key ends before a space, a dot or an equals sign. -/
theorem IsGap.stopsKey (h : IsGap gap) (hc : c = '.' ∨ c = '=') (rest : List Char) :
    ∀ x ∈ (gap ++ c :: rest).head?, isBareKeyChar x = false := by
  intro x hx
  cases gap with
  | nil =>
      obtain rfl : c = x := Option.some.inj hx
      rcases hc with rfl | rfl <;> decide
  | cons y gap =>
      obtain rfl : y = x := Option.some.inj hx
      have hspace : isSpace y = true := h y (by simp)
      rcases (by simpa [isSpace] using hspace : y = ' ' ∨ y = '\t') with rfl | rfl <;> decide

theorem skipSpaces_gap (h : IsGap gap) (hc : isSpace c = false) (rest : List Char) :
    skipSpaces (gap ++ c :: rest) = c :: rest := by
  rw [skipSpaces_append h, skipSpaces_of_head (by simpa using hc)]

theorem KeyPart.skipSpaces (h : KeyPart w k) (hgap : IsGap gap) (rest : List Char) :
    skipSpaces (gap ++ (w ++ rest)) = w ++ rest := by
  obtain ⟨c, r, rfl, hc⟩ := h.head
  exact skipSpaces_gap hgap hc.not_space _

/-- A key is read unless it has too many parts. -/
theorem takeKeyParts_of_keyText (h : KeyText s key) (hgap : IsGap gap) (hgap' : IsGap gap')
    (limit : ℕ) (rest : List Char) :
    takeKeyParts limit (gap ++ (s ++ (gap' ++ '=' :: rest))) =
      if key.1.length < limit then some (key, '=' :: rest) else none := by
  induction h generalizing gap limit with
  | @last w k hw =>
      cases limit with
      | zero => rfl
      | succ limit =>
          have hskip : skipSpaces (gap' ++ '=' :: rest) = '=' :: rest :=
            skipSpaces_gap hgap' rfl rest
          rw [takeKeyParts, hw.skipSpaces hgap,
            takeKeyPart_of_keyPart hw (hgap'.stopsKey (.inr rfl) rest)]
          simp [hskip]
  | @dotted w k gap₁ gap₂ s path key hw hgap₁ hgap₂ _ ih =>
      cases limit with
      | zero => rfl
      | succ limit =>
          have hskip (r : List Char) : skipSpaces (gap₁ ++ '.' :: r) = '.' :: r :=
            skipSpaces_gap hgap₁ rfl r
          simp only [List.append_assoc, List.cons_append]
          rw [takeKeyParts, hw.skipSpaces hgap,
            takeKeyPart_of_keyPart hw (hgap₁.stopsKey (.inl rfl) _)]
          simp only [Option.bind_some, hskip, ih hgap₂ limit, List.length_cons,
            Nat.succ_lt_succ_iff]
          split <;> rfl

theorem takeKeyEquals_of_keyEquals (h : KeyEquals s key)
    (hrest : ∀ c ∈ rest.head?, isSpace c = false) :
    takeKeyEquals (s ++ rest) = if key.1.length < maxKeyParts then some (key, rest) else none := by
  cases h with
  | @equals gap k gap' gap'' key hgap hk hgap' hgap'' =>
      have hread := takeKeyParts_of_keyText hk hgap hgap' maxKeyParts (gap'' ++ rest)
      have hskip : skipSpaces (gap'' ++ rest) = rest := by
        rw [skipSpaces_append hgap'', skipSpaces_of_head hrest]
      simp only [List.append_assoc, List.cons_append]
      rw [takeKeyEquals, takeKey, hread]
      split <;> simp [takeChar, hskip]

theorem KeyEquals.skipSpaces (h : KeyEquals s key) :
    ∃ c r, StartsKey c ∧ KeyEquals (c :: r) key ∧
      ∀ rest, skipSpaces (s ++ rest) = c :: (r ++ rest) := by
  cases h with
  | @equals gap k gap' gap'' key hgap hk hgap' hgap'' =>
      obtain ⟨c, r, rfl, hc⟩ := hk.head
      refine ⟨c, r ++ (gap' ++ '=' :: gap''), hc, ?_, fun rest => ?_⟩
      · exact .equals isGap_nil hk hgap' hgap''
      · simpa using skipSpaces_gap hgap hc.not_space (r ++ (gap' ++ '=' :: (gap'' ++ rest)))

end

/-! ### Keys in one table -/

def parts (key : List String × String) : List String :=
  key.1 ++ [key.2]

/-- Two keys of which neither leads to the value of the other or through it. -/
def Apart (k k' : List String × String) : Prop :=
  ¬ parts k <+: parts k' ∧ ¬ parts k' <+: parts k

theorem Apart.symm {k k' : List String × String} (h : Apart k k') : Apart k' k :=
  ⟨h.2, h.1⟩

theorem apart_single_iff {a b : String} : Apart ([], a) ([], b) ↔ a ≠ b := by
  simp [Apart, parts, List.cons_prefix_cons, eq_comm (a := b)]

theorem not_apart_single {a b : String} {path : List String} : ¬ Apart ([], a) (a :: path, b) := by
  simp [Apart, parts, List.cons_prefix_cons]

theorem apart_cons_iff {part key key' : String} {path path' : List String} :
    Apart (part :: path, key) (part :: path', key') ↔ Apart (path, key) (path', key') := by
  simp [Apart, parts, List.cons_prefix_cons]

namespace Members

section

variable {part name key key' : String} {path path' : List String} {node : Node} {ms ms' : Members}

theorem get?_append_new (h : ms.get? key = none) (node : Node) (name : String) :
    get? name (ms ++ [(key, node)]) = if key = name then some node else ms.get? name := by
  rw [get?, get?, List.find?_append]
  split
  · next heq =>
    subst heq
    have hnone : ms.find? (fun m => m.1 == key) = none := by simpa [get?] using h
    simp [hnone]
  · next hne =>
    have hnone : [(key, node)].find? (fun m => m.1 == name) = none := by simp [hne]
    simp [hnone]

theorem get?_set (part : String) (node : Node) (ms : Members) (name : String) :
    get? name (ms.set part node) = if part = name then some node else ms.get? name := by
  rw [set]
  split
  · next hsome =>
    have hmap : (ms.map fun m => if m.1 == part then (part, node) else m).find? (·.1 == name) =
        (ms.find? (·.1 == name)).map fun m => if m.1 == part then (part, node) else m := by
      rw [List.find?_map]
      congr 2
      funext m
      by_cases hm : m.1 = part <;> simp [hm]
    rw [get?, hmap]
    by_cases heq : part = name
    · subst heq
      obtain ⟨m, hm⟩ := Option.isSome_iff_exists.mp hsome
      obtain ⟨⟨a, b⟩, hfind, rfl⟩ := Option.map_eq_some_iff.mp hm
      have ha : a = part := by simpa using List.find?_some hfind
      simp [hfind, ha]
    · rw [if_neg heq, get?]
      cases hfind : ms.find? (·.1 == name) with
      | none => rfl
      | some m =>
          have hm : m.1 = name := by simpa using List.find?_some hfind
          simp [hm, Ne.symm heq]
  · next hnone => exact get?_append_new (by simpa using hnone) node name

/-- A table that can take a value under a dotted key. -/
def FreeIn (key : String) : List String → Members → Prop
  | [], ms => ms.get? key = none
  | part :: path, ms =>
    ms.get? part = none ∨ ∃ sub, ms.get? part = some (.table .dotted sub) ∧ FreeIn key path sub

theorem freeIn_nil (key : String) (path : List String) : FreeIn key path [] := by
  cases path with
  | nil => rfl
  | cons part path => exact .inl rfl

theorem FreeIn.exists_addDotted? (h : FreeIn key path ms) (node : Node) :
    ∃ ms', addDotted? key node path ms = some ms' := by
  induction path generalizing ms with
  | nil =>
      have hnone : ms.get? key = none := h
      simp [addDotted?, add?, hnone]
  | cons part path ih =>
      rcases h with hnone | ⟨sub, hsub, hfree⟩
      · obtain ⟨sub, hadd⟩ := ih (freeIn_nil key path)
        simp [addDotted?, hnone, hadd]
      · obtain ⟨sub', hadd⟩ := ih hfree
        simp [addDotted?, hsub, hadd]

/-- A value under a single name is found there, and other names keep what they stand for. -/
theorem get?_addDotted?_nil (h : addDotted? key node [] ms = some ms') (name : String) :
    ms'.get? name = if key = name then some node else ms.get? name := by
  rw [addDotted?, add?] at h
  split at h
  · cases h
  · next hnone =>
    cases h
    exact get?_append_new (by simpa using hnone) node name

/-- A value under a dotted key leaves what other names stand for. -/
theorem get?_addDotted?_of_ne (h : addDotted? key node (part :: path) ms = some ms')
    (hne : part ≠ name) : ms'.get? name = ms.get? name := by
  have hset {node'} : get? name (ms.set part node') = ms.get? name := by
    rw [get?_set, if_neg hne]
  rw [addDotted?] at h
  split at h
  · next hnone =>
    obtain ⟨sub, -, rfl⟩ := Option.map_eq_some_iff.mp h
    rw [get?_append_new hnone, if_neg hne]
  · obtain ⟨sub, -, rfl⟩ := Option.map_eq_some_iff.mp h
    exact hset
  · obtain ⟨sub, -, rfl⟩ := Option.map_eq_some_iff.mp (Option.ite_none_left_eq_some.mp h).2
    exact hset
  · obtain ⟨last, -, rfl⟩ := Option.map_eq_some_iff.mp (Option.ite_none_left_eq_some.mp h).2
    exact hset
  · cases h

/-- It goes into the table that dotted keys made under its first part, be it a new one. -/
theorem get?_addDotted?_self {sub : Members} (h : addDotted? key node (part :: path) ms = some ms')
    (hsub : ms.get? part = none ∧ sub = [] ∨ ms.get? part = some (.table .dotted sub)) :
    ∃ sub', addDotted? key node path sub = some sub' ∧
      ms'.get? part = some (.table .dotted sub') := by
  rcases hsub with ⟨hnone, rfl⟩ | hsub
  · rw [addDotted?, hnone] at h
    obtain ⟨sub', hadd, rfl⟩ := Option.map_eq_some_iff.mp h
    exact ⟨sub', hadd, by rw [get?_append_new hnone, if_pos rfl]⟩
  · rw [addDotted?, hsub] at h
    obtain ⟨sub', hadd, rfl⟩ := Option.map_eq_some_iff.mp h
    exact ⟨sub', hadd, by rw [get?_set, if_pos rfl]⟩

/-- A value that comes in leaves room for every key apart from its own. -/
theorem FreeIn.addDotted? (hfree : FreeIn key' path' ms) (hapart : Apart (path, key) (path', key'))
    (h : addDotted? key node path ms = some ms') : FreeIn key' path' ms' := by
  induction path generalizing path' ms ms' with
  | nil =>
      have hget := get?_addDotted?_nil h
      cases path' with
      | nil => rw [FreeIn, hget, if_neg (apart_single_iff.mp hapart), hfree]
      | cons part' path' =>
          have hne : key ≠ part' := by rintro rfl; exact not_apart_single hapart
          simpa only [FreeIn, hget, if_neg hne] using hfree
  | cons part path ih =>
      cases path' with
      | nil =>
          have hne : part ≠ key' := by rintro rfl; exact not_apart_single hapart.symm
          rw [FreeIn, get?_addDotted?_of_ne h hne, hfree]
      | cons part' path' =>
          by_cases heq : part = part'
          · subst heq
            obtain ⟨sub, hsub, hfree⟩ : ∃ sub, (ms.get? part = none ∧ sub = [] ∨
                ms.get? part = some (.table .dotted sub)) ∧ FreeIn key' path' sub := by
              rcases hfree with hnone | ⟨sub, hsub, hfree⟩
              · exact ⟨[], .inl ⟨hnone, rfl⟩, freeIn_nil key' path'⟩
              · exact ⟨sub, .inr hsub, hfree⟩
            obtain ⟨sub', hadd, hget⟩ := get?_addDotted?_self h hsub
            exact .inr ⟨sub', hget, ih hfree (apart_cons_iff.mp hapart) hadd⟩
          · simpa only [FreeIn, get?_addDotted?_of_ne h heq] using hfree

end

end Members

end EpisodeGuide.Toml
