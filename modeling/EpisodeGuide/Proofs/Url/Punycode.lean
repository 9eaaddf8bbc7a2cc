import EpisodeGuide.Url.Punycode
import Mathlib

/-! # Punycode read back

What is written in Punycode is read as the text that it was written for. The decoder follows the
encoder: between two numbers it knows all characters that the encoder has passed. -/

namespace EpisodeGuide.Url

theorem takeWhile_ne_append {c : Char} {s t : List Char} (hs : c ∉ s)
    (ht : ∀ x ∈ t.head?, x = c) :
    (s ++ t).takeWhile (· != c) = s ∧ (s ++ t).dropWhile (· != c) = t := by
  have hfree : ∀ x ∈ s, (x != c) = true := by
    intro x hx
    rw [bne_iff_ne]
    rintro rfl
    exact hs hx
  rw [List.takeWhile_append_of_pos hfree, List.dropWhile_append_of_pos hfree]
  cases t with
  | nil => simp
  | cons x t =>
      obtain rfl : x = c := ht x rfl
      simp

namespace Punycode

/-! ### Numbers -/

theorem threshold_le (position bias : ℕ) : threshold position bias ≤ 26 := by
  unfold threshold
  split
  · omega
  · split <;> omega

theorem digitValue?_digitChar {d : ℕ} (h : d < base) : digitValue? (digitChar d) = some d := by
  have hall : ∀ d < 36, digitValue? (digitChar d) = some d := by decide
  exact hall d h

/-- A digit that is not small leaves the rest of the number to the next ones. -/
theorem numberDigits_step {q t : ℕ} (ht : t < base) (h : t ≤ q) :
    t + (q - t) % (base - t) < base ∧
      t + (q - t) % (base - t) + (q - t) / (base - t) * (base - t) = q := by
  have hpos : 0 < base - t := by omega
  have hmod := Nat.mod_lt (q - t) hpos
  have hdiv := Nat.mod_add_div' (q - t) (base - t)
  constructor <;> omega

/-- The digits of a number are read as that number. -/
theorem foldlM_numberDigits (bias position q : ℕ) (st : Decoding) (hbias : st.bias = bias)
    (hposition : st.position = position) :
    (numberDigits bias position q).foldlM Decoding.digit? st =
      st.insert? (st.number + q * st.weight) := by
  fun_induction numberDigits bias position q generalizing st with
  | case1 position q t h =>
      have ht := threshold_le position bias
      have hdigit : digitValue? (digitChar q) = some q :=
        digitValue?_digitChar (by unfold base; omega)
      have hlast : ¬ threshold st.position st.bias ≤ q := by
        rw [hbias, hposition]
        omega
      simp [Decoding.digit?, hdigit, hlast]
  | case2 position q t h ih =>
      have ht := threshold_le position bias
      obtain ⟨hlt, hq⟩ := numberDigits_step (q := q) (t := t) (by unfold base; omega) (by omega)
      have hstep : st.digit? (digitChar (t + (q - t) % (base - t))) = some { st with
          number := st.number + (t + (q - t) % (base - t)) * st.weight
          weight := st.weight * (base - t)
          position := st.position + base } := by
        simp [Decoding.digit?, digitValue?_digitChar hlt, hbias, hposition, t]
      have hnumber : st.number + (t + (q - t) % (base - t)) * st.weight +
          (q - t) / (base - t) * (st.weight * (base - t)) = st.number + q * st.weight := by
        conv => rhs; rw [← hq, Nat.add_mul]
        rw [Nat.mul_comm st.weight, ← Nat.mul_assoc, Nat.add_assoc]
      rw [List.foldlM_cons, hstep, ← hnumber]
      apply ih
      · exact hbias
      · exact congrArg (· + base) hposition

theorem mem_numberDigits (bias position q : ℕ) :
    ∀ c ∈ numberDigits bias position q, ∃ d < base, c = digitChar d := by
  fun_induction numberDigits bias position q with
  | case1 position q t h =>
      have ht := threshold_le position bias
      intro c hc
      exact ⟨q, by unfold base; omega, List.mem_singleton.mp hc⟩
  | case2 position q t h ih =>
      have ht := threshold_le position bias
      have hlt := (numberDigits_step (q := q) (t := t) (by unfold base; omega) (by omega)).1
      intro c hc
      rcases List.mem_cons.mp hc with hc | hc
      · exact ⟨_, hlt, hc⟩
      · exact ih c hc

/-! ### The code points in order -/

theorem mem_insertSorted {m n : ℕ} {points : List ℕ} :
    m ∈ insertSorted n points ↔ m = n ∨ m ∈ points := by
  induction points with
  | nil => simp [insertSorted]
  | cons p points ih =>
      rw [insertSorted]
      split
      · simp
      · split
        · next heq => simp [heq]
        · simp only [List.mem_cons, ih]
          tauto

theorem pairwise_insertSorted {n : ℕ} {points : List ℕ} (h : points.Pairwise (· < ·)) :
    (insertSorted n points).Pairwise (· < ·) := by
  induction points with
  | nil => simp [insertSorted]
  | cons p points ih =>
      obtain ⟨hp, hpoints⟩ := List.pairwise_cons.mp h
      rw [insertSorted]
      split
      · next hlt =>
        apply List.pairwise_cons.mpr
        refine ⟨?_, h⟩
        intro m hm
        rcases List.mem_cons.mp hm with rfl | hm
        · exact hlt
        · exact Nat.lt_trans hlt (hp m hm)
      · split
        · exact h
        · apply List.pairwise_cons.mpr
          refine ⟨?_, ih hpoints⟩
          intro m hm
          rcases mem_insertSorted.mp hm with rfl | hm
          · omega
          · exact hp m hm

theorem mem_countedPoints {m : ℕ} {text : List Char} :
    m ∈ countedPoints text ↔ firstCodePoint ≤ m ∧ ∃ c ∈ text, c.toNat = m := by
  have hfold (points : List ℕ) : m ∈ points.foldr insertSorted [] ↔ m ∈ points := by
    induction points with
    | nil => rfl
    | cons p points ih => rw [List.foldr_cons, mem_insertSorted, ih, List.mem_cons]
  rw [countedPoints, hfold, List.mem_filter, List.mem_map, decide_eq_true_eq, and_comm]

theorem pairwise_countedPoints (text : List Char) : (countedPoints text).Pairwise (· < ·) := by
  unfold countedPoints
  induction (text.map Char.toNat).filter (firstCodePoint ≤ ·) with
  | nil => exact .nil
  | cons p points ih => exact pairwise_insertSorted ih

/-! ### The decoder behind the encoder -/

/-- While `m` is counted and `before` has been passed, the decoder has read all digits so far. It
knows the smaller characters everywhere and `m` itself where it was passed. -/
structure Follows (start : Decoding) (basic m : ℕ) (before behind : List Char) (st : Counting)
    (d : Decoding) : Prop where
  reads : st.digits.foldlM Decoding.digit? start = some d
  digits : ∀ c ∈ st.digits, ∃ v < base, c = digitChar v
  text : d.text = before.filter (·.toNat ≤ m) ++ behind.filter (·.toNat < m)
  written : st.written = d.text.length
  basic_le : basic ≤ st.written
  bias : d.bias = st.bias
  first : d.place = 0 ↔ st.written = basic
  steps : d.place + st.delta =
    (m - d.point) * (d.text.length + 1) + (before.filter (·.toNat ≤ m)).length
  point : d.point ≤ m
  number : d.number = d.place
  weight : d.weight = 1
  position : d.position = base

def inserted (before behind : List Char) (c : Char) (bias : ℕ) : Decoding where
  text := before.filter (·.toNat ≤ c.toNat) ++ c :: behind.filter (·.toNat < c.toNat)
  point := c.toNat
  place := (before.filter (·.toNat ≤ c.toNat)).length + 1
  bias := bias
  number := (before.filter (·.toNat ≤ c.toNat)).length + 1
  weight := 1
  position := base

/-- Digits that lead the decoder from its start to a text. -/
structure LeadsTo (start : Decoding) (digits text : List Char) : Prop where
  reads : ∃ d, digits.foldlM Decoding.digit? start = some d ∧ d.text = text ∧ d.position = base
  digits : ∀ c ∈ digits, ∃ v < base, c = digitChar v

section

variable {start d : Decoding} {basic m n : ℕ} {before behind text : List Char} {c : Char}
  {st : Counting}

theorem Follows.text_cons (h : Follows start basic c.toNat before (c :: behind) st d) :
    d.text = before.filter (·.toNat ≤ c.toNat) ++ behind.filter (·.toNat < c.toNat) := by
  rw [h.text, List.filter_cons_of_neg (by simp)]

/-- The number of the next character puts it in at its place. -/
theorem Follows.insert? (h : Follows start basic c.toNat before (c :: behind) st d) :
    d.insert? (d.place + st.delta) = some (inserted before behind c
      (adapt st.delta (d.text.length + 1) (st.written == basic))) := by
  have htext := h.text_cons
  have hplace : (before.filter (·.toNat ≤ c.toNat)).length < d.text.length + 1 := by
    rw [htext, List.length_append]
    omega
  obtain ⟨hdiv, hmod⟩ : (d.place + st.delta) / (d.text.length + 1) = c.toNat - d.point ∧
      (d.place + st.delta) % (d.text.length + 1) =
        (before.filter (·.toNat ≤ c.toNat)).length := by
    apply (Nat.div_mod_unique (Nat.succ_pos d.text.length)).mpr
    exact ⟨by rw [h.steps, Nat.mul_comm, Nat.add_comm], hplace⟩
  have hpoint : d.point + (d.place + st.delta) / (d.text.length + 1) = c.toNat := by
    have hle := h.point
    omega
  have hfirst : (d.place == 0) = (st.written == basic) := by
    rw [Bool.eq_iff_iff, beq_iff_eq, beq_iff_eq]
    exact h.first
  have htake : d.text.take (before.filter (·.toNat ≤ c.toNat)).length =
      before.filter (·.toNat ≤ c.toNat) := by
    rw [htext, List.take_left]
  have hdrop : d.text.drop (before.filter (·.toNat ≤ c.toNat)).length =
      behind.filter (·.toNat < c.toNat) := by
    rw [htext, List.drop_left]
  simp only [Decoding.insert?, hpoint, hmod, hfirst, htake, hdrop, Nat.add_sub_cancel_left,
    Char.ofNat_toNat]
  exact if_pos c.valid

theorem Follows.pass_smaller (h : Follows start basic m before (c :: behind) st d)
    (hc : c.toNat < m) : Follows start basic m (before ++ [c]) behind (st.pass basic m c) d := by
  have hle := Nat.le_of_lt hc
  have hbefore : (before ++ [c]).filter (·.toNat ≤ m) = before.filter (·.toNat ≤ m) ++ [c] := by
    simp [hle]
  have hpass : st.pass basic m c = { st with delta := st.delta + 1 } := if_pos hc
  rw [hpass]
  exact { h with
    text := by
      rw [h.text, hbefore, List.filter_cons_of_pos (by simpa using hc), List.append_assoc]
      rfl
    steps := by
      have hsteps := h.steps
      simp only [hbefore, List.length_append, List.length_singleton]
      omega }

theorem Follows.pass_larger (h : Follows start basic m before (c :: behind) st d)
    (hc : m < c.toNat) : Follows start basic m (before ++ [c]) behind (st.pass basic m c) d := by
  have hpass : st.pass basic m c = st := by
    simp [Counting.pass, Nat.lt_asymm hc, Nat.ne_of_gt hc]
  have hbefore : (before ++ [c]).filter (·.toNat ≤ m) = before.filter (·.toNat ≤ m) := by
    simp [hc]
  have hle := Nat.le_of_lt hc
  rw [hpass]
  exact { h with
    text := by rw [h.text, hbefore, List.filter_cons_of_neg (by simpa using hle)]
    steps := by rw [hbefore, h.steps] }

theorem Follows.pass_equal (h : Follows start basic c.toNat before (c :: behind) st d) :
    Follows start basic c.toNat (before ++ [c]) behind (st.pass basic c.toNat c)
      (inserted before behind c (adapt st.delta (d.text.length + 1) (st.written == basic))) := by
  have hbefore : (before ++ [c]).filter (·.toNat ≤ c.toNat) =
      before.filter (·.toNat ≤ c.toNat) ++ [c] := by
    simp
  have hread := foldlM_numberDigits st.bias base st.delta d h.bias h.position
  rw [h.number, h.weight, Nat.mul_one, h.insert?] at hread
  have hpass : st.pass basic c.toNat c =
      ⟨st.digits ++ numberDigits st.bias base st.delta, 0,
        adapt st.delta (st.written + 1) (st.written == basic), st.written + 1⟩ := by
    simp [Counting.pass]
  rw [hpass]
  exact {
    reads := by
      rw [List.foldlM_append, h.reads]
      exact hread
    digits := by
      intro x hx
      rcases List.mem_append.mp hx with hx | hx
      · exact h.digits x hx
      · exact mem_numberDigits _ _ _ x hx
    text := by
      rw [hbefore, List.append_assoc]
      rfl
    written := by
      rw [h.written, h.text_cons, inserted]
      simp only [List.length_append, List.length_cons]
      omega
    basic_le := Nat.le_succ_of_le h.basic_le
    bias := by rw [h.written, inserted]
    first := by
      have hle := h.basic_le
      constructor
      · intro hzero
        cases hzero
      · intro hwritten
        simp only at hwritten
        omega
    steps := by simp [hbefore, inserted]
    point := Nat.le_refl _
    number := rfl
    weight := rfl
    position := rfl }

/-- The encoder passes a text, and the decoder gets behind it. -/
theorem Follows.foldl_pass (h : Follows start basic m before behind st d) :
    ∃ d', Follows start basic m (before ++ behind) []
      (behind.foldl (Counting.pass basic m) st) d' := by
  induction behind generalizing before st d with
  | nil =>
      rw [List.append_nil]
      exact ⟨d, h⟩
  | cons c behind ih =>
      have hstep : ∃ d', Follows start basic m (before ++ [c]) behind (st.pass basic m c) d' := by
        rcases Nat.lt_trichotomy c.toNat m with hc | rfl | hc
        · exact ⟨d, h.pass_smaller hc⟩
        · exact ⟨_, h.pass_equal⟩
        · exact ⟨d, h.pass_larger hc⟩
      obtain ⟨d', hstep⟩ := hstep
      have hrest := ih hstep
      rw [List.append_assoc] at hrest
      exact hrest

/-- From one code point to a later one with none between them in the text. -/
theorem Follows.advance (h : Follows start basic n [] text st d) (hle : n ≤ m)
    (hnone : ∀ c ∈ text, n ≤ c.toNat → m ≤ c.toNat) :
    Follows start basic m [] text { st with delta := st.delta + (m - n) * (st.written + 1) } d := by
  have hpoint := h.point
  have htext : text.filter (·.toNat < n) = text.filter (·.toNat < m) := by
    apply List.filter_congr
    intro c hc
    have hc := hnone c hc
    rw [decide_eq_decide]
    omega
  exact { h with
    text := by
      rw [h.text, htext]
      rfl
    steps := by
      have hsteps := h.steps
      have hsplit : m - d.point = (n - d.point) + (m - n) := by omega
      rw [hsplit, Nat.add_mul, h.written]
      simp only [List.filter_nil, List.length_nil, Nat.add_zero] at hsteps ⊢
      rw [← hsteps, Nat.add_assoc]
    point := by omega }

/-- The end of a text is the start for the next code point. -/
theorem Follows.restart (h : Follows start basic m text [] st d) :
    Follows start basic (m + 1) [] text { st with delta := st.delta + 1 } d := by
  have hpoint := h.point
  have htext : text.filter (·.toNat ≤ m) = text.filter (·.toNat < m + 1) := by
    apply List.filter_congr
    intro c _
    rw [decide_eq_decide]
    omega
  have hknown : d.text = text.filter (·.toNat ≤ m) := by
    rw [h.text, List.filter_nil, List.append_nil]
  exact { h with
    text := by
      rw [hknown, htext]
      rfl
    steps := by
      have hsteps := h.steps
      rw [← hknown] at hsteps
      have hsplit : m + 1 - d.point = (m - d.point) + 1 := by omega
      rw [hsplit, Nat.add_mul, Nat.one_mul, ← Nat.add_assoc, ← Nat.add_assoc, ← hsteps]
      rfl
    point := by omega }

/-- The encoder counts all code points of a text, and the decoder knows the text. -/
theorem Follows.countAll {points : List ℕ} (h : Follows start basic n [] text st d)
    (hpoints : points.Pairwise (· < ·)) (hn : ∀ m ∈ points, n ≤ m)
    (hmem : ∀ c ∈ text, n ≤ c.toNat → c.toNat ∈ points) :
    LeadsTo start (countAll text basic n st points).digits text := by
  induction points generalizing n st d with
  | nil =>
      refine ⟨⟨d, h.reads, ?_, h.position⟩, h.digits⟩
      rw [h.text, List.filter_nil, List.nil_append]
      apply List.filter_eq_self.mpr
      intro c hc
      have hc := hmem c hc
      simp only [List.not_mem_nil, imp_false, Nat.not_le] at hc
      exact decide_eq_true hc
  | cons m points ih =>
      obtain ⟨hm, hpoints⟩ := List.pairwise_cons.mp hpoints
      -- `m` is the next code point of the text, so all steps up to it are counted at once
      have hfirst : ∀ c ∈ text, n ≤ c.toNat → m ≤ c.toNat := by
        intro c hc hnc
        rcases List.mem_cons.mp (hmem c hc hnc) with heq | hlater
        · omega
        · exact Nat.le_of_lt (hm _ hlater)
      have hstart := h.advance (hn m (by simp)) hfirst
      obtain ⟨d', hpassed⟩ := hstart.foldl_pass
      apply ih hpassed.restart hpoints
      · exact hm
      · intro c hc hmc
        rcases List.mem_cons.mp (hmem c hc (by have := hn m (by simp); omega)) with heq | hlater
        · omega
        · exact hlater

end

/-! ### Reading what is written -/

theorem follows_start (text : List Char) :
    Follows (.start (basicPart text)) (basicPart text).length firstCodePoint [] text
      ⟨[], 0, firstBias, (basicPart text).length⟩ (.start (basicPart text)) where
  reads := rfl
  digits := by simp
  text := rfl
  written := rfl
  basic_le := Nat.le_refl _
  bias := rfl
  first := by simp [Decoding.start]
  steps := by simp [Decoding.start]
  point := Nat.le_refl _
  number := rfl
  weight := rfl
  position := rfl

theorem leadsTo_codedPart (text : List Char) :
    LeadsTo (.start (basicPart text)) (codedPart text) text := by
  apply (follows_start text).countAll (pairwise_countedPoints text)
  · intro m hm
    exact (mem_countedPoints.mp hm).1
  · intro c hc hle
    exact mem_countedPoints.mpr ⟨hle, c, hc, rfl⟩

theorem digitChar_ne_hyphen {d : ℕ} (h : d < base) : digitChar d ≠ '-' := by
  intro heq
  have hvalue := digitValue?_digitChar h
  rw [heq] at hvalue
  cases hvalue

/-- The last hyphen stands before the digits, if there are characters in front of it. -/
theorem splitBasic_append {basic digits : List Char} (h : '-' ∉ digits) :
    splitBasic (basic ++ ((if basic.isEmpty then [] else ['-']) ++ digits)) = (basic, digits) := by
  have hreverse : '-' ∉ digits.reverse := by
    intro hmem
    exact h (List.mem_reverse.mp hmem)
  rcases List.eq_nil_or_concat' basic with rfl | ⟨before, c, rfl⟩
  · have hdrop := (takeWhile_ne_append hreverse (t := []) (by simp)).2
    rw [List.append_nil] at hdrop
    simp [splitBasic, hdrop]
  · have htext : (before ++ [c] ++
        ((if (before ++ [c]).isEmpty then [] else ['-']) ++ digits)).reverse =
          digits.reverse ++ '-' :: c :: before.reverse := by
      simp
    obtain ⟨htake, hdrop⟩ :=
      takeWhile_ne_append hreverse (t := '-' :: c :: before.reverse) (by simp)
    rw [splitBasic, htext, htake, hdrop]
    simp

/-- A coded form is read as the text it is the form of. -/
theorem decode?_encode (text : List Char) : decode? (encode text) = some text := by
  have hleads := leadsTo_codedPart text
  have hhyphen : '-' ∉ codedPart text := by
    intro hmem
    obtain ⟨v, hv, heq⟩ := hleads.digits _ hmem
    exact digitChar_ne_hyphen hv heq.symm
  obtain ⟨d, hread, htext, hposition⟩ := hleads.reads
  rw [decode?, encode, List.append_assoc, splitBasic_append hhyphen]
  simp [hread, htext, hposition]

/-! ### Characters -/

/-- What is written is ASCII characters of the text, hyphens and digits. -/
theorem mem_encode {c : Char} {text : List Char} (h : c ∈ encode text) :
    (c ∈ text ∧ c.toNat < firstCodePoint) ∨ c = '-' ∨ ∃ v < base, c = digitChar v := by
  rw [encode, List.append_assoc, List.mem_append, List.mem_append] at h
  rcases h with hbasic | hhyphen | hdigit
  · simpa [basicPart] using Or.inl hbasic
  · split at hhyphen
    · cases hhyphen
    · exact .inr (.inl (List.mem_singleton.mp hhyphen))
  · exact .inr (.inr ((leadsTo_codedPart text).digits c hdigit))

/-- The characters that a decoder knows are those it started with and others beyond ASCII. -/
structure Knows (basic : List Char) (st : Decoding) : Prop where
  mem : ∀ c ∈ st.text, c ∈ basic ∨ firstCodePoint ≤ c.toNat
  point : firstCodePoint ≤ st.point

theorem Knows.insert? {basic : List Char} {st st' : Decoding} {number : ℕ} (h : Knows basic st)
    (hread : st.insert? number = some st') : Knows basic st' := by
  simp only [Decoding.insert?] at hread
  split at hread
  · next hvalid =>
    obtain rfl := Option.some.inj hread
    have hpoint := Nat.le_add_right_of_le (k := number / (st.text.length + 1)) h.point
    refine ⟨?_, hpoint⟩
    intro c hc
    rcases List.mem_append.mp hc with htaken | hc
    · exact h.mem c (List.mem_of_mem_take htaken)
    · rcases List.mem_cons.mp hc with rfl | hdropped
      · rw [Char.toNat_ofNat, if_pos hvalid]
        exact .inr hpoint
      · exact h.mem c (List.mem_of_mem_drop hdropped)
  · cases hread

theorem Knows.digit? {basic : List Char} {st st' : Decoding} {c : Char} (h : Knows basic st)
    (hread : st.digit? c = some st') : Knows basic st' := by
  obtain ⟨d, -, hread⟩ := Option.bind_eq_some_iff.mp hread
  simp only at hread
  split at hread
  · obtain rfl := Option.some.inj hread
    exact ⟨h.mem, h.point⟩
  · exact h.insert? hread

theorem Knows.foldlM {basic digits : List Char} {st st' : Decoding} (h : Knows basic st)
    (hread : digits.foldlM Decoding.digit? st = some st') : Knows basic st' := by
  induction digits generalizing st with
  | nil =>
      obtain rfl := Option.some.inj hread
      exact h
  | cons c digits ih =>
      rw [List.foldlM_cons] at hread
      obtain ⟨next, hnext, hread⟩ := Option.bind_eq_some_iff.mp hread
      exact ih (h.digit? hnext) hread

theorem mem_splitBasic {s : List Char} : ∀ c ∈ (splitBasic s).1, c ∈ s := by
  intro c hc
  rw [splitBasic] at hc
  split at hc
  · next hdrop =>
    have hsuffix := List.dropWhile_suffix (· != '-') (l := s.reverse)
    rw [hdrop] at hsuffix
    have hmem := hsuffix.subset (List.mem_cons_of_mem '-' (List.mem_reverse.mp hc))
    exact List.mem_reverse.mp hmem
  · cases hc

/-- What is read is characters of the coded form, and others beyond ASCII. -/
theorem mem_of_decode? {s text : List Char} (h : decode? s = some text) :
    ∀ c ∈ text, c ∈ s ∨ firstCodePoint ≤ c.toNat := by
  obtain ⟨st, hread, hend⟩ := Option.bind_eq_some_iff.mp h
  have hstart : Knows (splitBasic s).1 (.start (splitBasic s).1) :=
    ⟨fun c hc => .inl hc, Nat.le_refl _⟩
  have hknows := hstart.foldlM hread
  split at hend
  · obtain rfl := Option.some.inj hend
    intro c hc
    rcases hknows.mem c hc with hbasic | hbeyond
    · exact .inl (mem_splitBasic c hbasic)
    · exact .inr hbeyond
  · cases hend

end Punycode

end EpisodeGuide.Url
