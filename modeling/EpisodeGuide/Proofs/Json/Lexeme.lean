import EpisodeGuide.Json.Lexeme
import Mathlib

/-! # The words of JSON texts

What numbers, quoted texts and the other lexemes look like. A text is read as lexemes exactly if it
is written as them, spaces put in anywhere, as long as no number follows another one at once. -/

namespace EpisodeGuide.Json

open EpisodeGuide.Text

/-! ### Numbers -/

/-- A run of decimal digits. -/
abbrev Digits (w : List Char) (ds : List ℕ) : Prop :=
  List.Forall₂ (fun c d => digit? c = some d) w ds

/-- The digits before the point: a zero alone, or a run that starts otherwise. -/
inductive Whole : List Char → List ℕ → Prop where
  | zero {w} : Digits w [0] → Whole w [0]
  | run {w d ds} : Digits w (d :: ds) → d ≠ 0 → Whole w (d :: ds)

inductive Fraction : List Char → Option (List ℕ) → Prop where
  | none : Fraction [] none
  | digits {w d ds} : Digits w (d :: ds) → Fraction ('.' :: w) (some (d :: ds))

inductive Sign : List Char → Bool → Prop where
  | none : Sign [] false
  | plus : Sign ['+'] false
  | minus : Sign ['-'] true

inductive Exponent : List Char → Option Int → Prop where
  | none : Exponent [] none
  | digits {mark sign negative w d ds} : mark = 'e' ∨ mark = 'E' → Sign sign negative →
      Digits w (d :: ds) → Exponent (mark :: sign ++ w)
        (some (if negative then -(ofDigits 10 (d :: ds) : Int) else ofDigits 10 (d :: ds)))

inductive NumberWord : List Char → Numeral → Prop where
  | positive {w f e ds fraction exponent} : Whole w ds → Fraction f fraction →
      Exponent e exponent → NumberWord (w ++ f ++ e) ⟨false, ds, fraction, exponent⟩
  | negative {w f e ds fraction exponent} : Whole w ds → Fraction f fraction →
      Exponent e exponent → NumberWord ('-' :: (w ++ f ++ e)) ⟨true, ds, fraction, exponent⟩

/-! ### Texts and lexemes -/

/-- A plain character, an escape or a hexadecimal unit. -/
inductive PieceWord : List Char → Piece → Prop where
  | plain {c} : 0x20 ≤ c.toNat → c ≠ '"' → c ≠ '\\' → PieceWord [c] (.char c)
  | short {e c} : shortEscape? e = some c → PieceWord ['\\', e] (.char c)
  | code {a b c d u} : unit? a b c d = some u → PieceWord ['\\', 'u', a, b, c, d] (.code u)

inductive PieceWords : List Char → List Piece → Prop where
  | nil : PieceWords [] []
  | cons {w p ws ps} : PieceWord w p → PieceWords ws ps → PieceWords (w ++ ws) (p :: ps)

inductive LexemeWord : List Char → Lexeme → Prop where
  | openBrace : LexemeWord ['\x7b'] .openBrace
  | closeBrace : LexemeWord ['\x7d'] .closeBrace
  | openBracket : LexemeWord ['['] .openBracket
  | closeBracket : LexemeWord [']'] .closeBracket
  | colon : LexemeWord [':'] .colon
  | comma : LexemeWord [','] .comma
  | null : LexemeWord ['n', 'u', 'l', 'l'] .null
  | yes : LexemeWord ['t', 'r', 'u', 'e'] (.bool true)
  | no : LexemeWord ['f', 'a', 'l', 's', 'e'] (.bool false)
  | number {w n} : NumberWord w n → LexemeWord w (.number n)
  | text {w ps} : PieceWords w ps → LexemeWord ('"' :: w ++ ['"']) (.text ps)

/-- Lexemes one after the other, spaces anywhere between and around them. -/
inductive Written : List Char → List Lexeme → Prop where
  | nil : Written [] []
  | space {c s ts} : isSpace c = true → Written s ts → Written (c :: s) ts
  | lexeme {w t s ts} : LexemeWord w t → Written s ts → Written (w ++ s) (t :: ts)

/-! ### Reading finds what is written -/

/-- The text does not go on with a character of a kind. -/
def Stops (p : Char → Bool) (s : List Char) : Prop :=
  ∀ c ∈ s.head?, p c = false

def isNumberPart (c : Char) : Bool :=
  isDigit c || c == '.' || c == 'e' || c == 'E'

section Reading

variable {w f e s rest : List Char} {ds : List ℕ}

theorem Stops.mono {p q : Char → Bool} (h : Stops p s) (hqp : ∀ c, q c = true → p c = true) :
    Stops q s := fun c hc => by
  have hp := h c hc
  cases hq : q c with
  | false => rfl
  | true => rw [hqp c hq] at hp; exact hp

theorem takeDigits_of_digits (h : Digits w ds) (hrest : Stops isDigit rest) :
    takeDigits (w ++ rest) = (ds, rest) := by
  induction h with
  | nil =>
      cases rest with
      | nil => rfl
      | cons c rest => simp [takeDigits, hrest c rfl]
  | @cons c d w ds hc _ ih =>
      have hdigit : isDigit c = true := by simp [isDigit, hc]
      simp only [takeDigits, Prod.mk.injEq] at ih
      simp [takeDigits, hdigit, hc, ih]

theorem digits_of_takeDigits (s : List Char) :
    ∃ w, s = w ++ (takeDigits s).2 ∧ Digits w (takeDigits s).1 := by
  have hdigits (w : List Char) (hw : ∀ c ∈ w, isDigit c = true) :
      Digits w (w.filterMap digit?) := by
    induction w with
    | nil => exact .nil
    | cons c w ih =>
        obtain ⟨hc, hw⟩ := List.forall_mem_cons.mp hw
        obtain ⟨d, hd⟩ := Option.isSome_iff_exists.mp hc
        rw [List.filterMap_cons_some hd]
        exact .cons hd (ih hw)
  exact ⟨s.takeWhile isDigit, (List.takeWhile_append_dropWhile ..).symm,
    hdigits _ fun c hc => List.mem_takeWhile_imp hc⟩

theorem takeWhole_of_whole (h : Whole w ds) (hrest : Stops isDigit rest) :
    takeWhole (w ++ rest) = some (ds, rest) := by
  cases h with
  | zero hdigits =>
      rw [takeWhole, takeDigits_of_digits hdigits hrest]
      rfl
  | run hdigits hne =>
      rw [takeWhole, takeDigits_of_digits hdigits hrest]
      split <;> simp_all

theorem whole_of_takeWhole (h : takeWhole s = some (ds, rest)) :
    ∃ w, s = w ++ rest ∧ Whole w ds := by
  obtain ⟨w, hs, hdigits⟩ := digits_of_takeDigits s
  unfold takeWhole at h
  split at h
  · cases h
  · cases h
  · next digits rest' hne hzero htake =>
    obtain ⟨rfl, rfl⟩ : digits = ds ∧ rest' = rest := by simpa using h
    rw [htake] at hs hdigits
    refine ⟨w, hs, ?_⟩
    rcases digits with - | ⟨d, ds⟩
    · exact (hne rfl).elim
    · by_cases hd : d = 0
      · subst hd
        cases ds with
        | nil => exact .zero hdigits
        | cons d' ds => exact (hzero d' ds rfl).elim
      · exact .run hdigits hd

/-- A character that goes on with the digits before an exponent. -/
def isPointOrDigit (c : Char) : Bool :=
  isDigit c || c == '.'

theorem takeFraction_of_fraction {fraction : Option (List ℕ)} (h : Fraction f fraction)
    (hrest : Stops isPointOrDigit rest) : takeFraction (f ++ rest) = some (fraction, rest) := by
  have hdigits : Stops isDigit rest := hrest.mono fun c hc => by simp [isPointOrDigit, hc]
  cases h with
  | none =>
      unfold takeFraction
      split
      · next r heq =>
        obtain rfl : rest = '.' :: r := heq
        have hpoint := hrest '.' rfl
        simp [isPointOrDigit] at hpoint
      · rfl
  | digits hw =>
      rw [List.cons_append, takeFraction, takeDigits_of_digits hw hdigits]

theorem takeSign_of_sign {sign : List Char} {negative : Bool} (h : Sign sign negative)
    (hw : Digits w ds) (hne : ds ≠ []) :
    takeSign (sign ++ (w ++ rest)) = (negative, w ++ rest) := by
  cases h with
  | plus | minus => rfl
  | none =>
      cases hw with
      | nil => exact (hne rfl).elim
      | @cons c d w ds hc _ =>
          unfold takeSign
          split
          · next heq =>
            obtain rfl : c = '+' := (List.cons.inj heq).1
            cases hc
          · next heq =>
            obtain rfl : c = '-' := (List.cons.inj heq).1
            cases hc
          · rfl

theorem takeExponent_of_exponent {exponent : Option Int} (h : Exponent e exponent)
    (hrest : Stops isNumberPart rest) : takeExponent (e ++ rest) = some (exponent, rest) := by
  have hdigits : Stops isDigit rest := hrest.mono fun c hc => by simp [isNumberPart, hc]
  cases h with
  | none =>
      cases rest with
      | nil => rfl
      | cons c rest =>
          have hc := hrest c rfl
          simp only [isNumberPart, Bool.or_eq_false_iff] at hc
          simp [takeExponent, hc.1.2, hc.2]
  | @digits mark sign negative w d ds hmark hsign hw =>
      have hmark' : (mark == 'e' || mark == 'E') = true := by simpa using hmark
      rw [List.cons_append, List.cons_append, List.append_assoc, takeExponent]
      simp only [hmark', takeSign_of_sign hsign hw (List.cons_ne_nil d ds),
        takeDigits_of_digits hw hdigits]
      rfl

theorem fraction_of_takeFraction {fraction : Option (List ℕ)}
    (h : takeFraction s = some (fraction, rest)) : ∃ f, s = f ++ rest ∧ Fraction f fraction := by
  unfold takeFraction at h
  split at h
  · next r =>
    obtain ⟨w, hr, hdigits⟩ := digits_of_takeDigits r
    split at h
    · cases h
    · next digits rest' hne htake =>
      obtain ⟨rfl, rfl⟩ : some digits = fraction ∧ rest' = rest := by simpa using h
      rw [htake] at hr hdigits
      rcases digits with - | ⟨d, ds⟩
      · exact (hne rfl).elim
      · exact ⟨'.' :: w, by rw [hr, List.cons_append], .digits hdigits⟩
  · obtain ⟨rfl, rfl⟩ : none = fraction ∧ s = rest := by simpa using h
    exact ⟨[], rfl, .none⟩

theorem sign_of_takeSign (s : List Char) :
    ∃ sign, s = sign ++ (takeSign s).2 ∧ Sign sign (takeSign s).1 := by
  unfold takeSign
  split
  · exact ⟨['+'], rfl, .plus⟩
  · exact ⟨['-'], rfl, .minus⟩
  · exact ⟨[], rfl, .none⟩

theorem exponent_of_takeExponent {exponent : Option Int}
    (h : takeExponent s = some (exponent, rest)) : ∃ e, s = e ++ rest ∧ Exponent e exponent := by
  unfold takeExponent at h
  split at h
  · obtain ⟨rfl, rfl⟩ : none = exponent ∧ [] = rest := by simpa using h
    exact ⟨[], rfl, .none⟩
  · next c r =>
    split at h
    · next hmark =>
      have hmark : c = 'e' ∨ c = 'E' := by simpa using hmark
      obtain ⟨sign, hr, hsign⟩ := sign_of_takeSign r
      obtain ⟨w, hr', hdigits⟩ := digits_of_takeDigits (takeSign r).2
      simp only at h
      split at h
      · cases h
      · next digits rest' hne htake =>
        obtain ⟨rfl, rfl⟩ : some _ = exponent ∧ rest' = rest := by simpa using h
        rw [htake] at hr' hdigits
        rcases digits with - | ⟨d, ds⟩
        · exact (hne rfl).elim
        · refine ⟨c :: sign ++ w, ?_, .digits hmark hsign hdigits⟩
          rw [hr, hr', List.cons_append, List.cons_append, List.append_assoc]
    · obtain ⟨rfl, rfl⟩ : none = exponent ∧ c :: r = rest := by simpa using h
      exact ⟨[], rfl, .none⟩

theorem Exponent.stops {exponent : Option Int} (h : Exponent e exponent)
    (hrest : Stops isNumberPart rest) : Stops isPointOrDigit (e ++ rest) := by
  cases h with
  | none =>
      refine hrest.mono fun c hc => ?_
      rcases (Bool.or_eq_true _ _).mp hc with hdigit | hpoint
      · simp [isNumberPart, hdigit]
      · simp [isNumberPart, eq_of_beq hpoint]
  | digits hmark =>
      intro c hc
      obtain rfl := Option.some.inj hc
      rcases hmark with rfl | rfl <;> decide

theorem Fraction.stops {fraction : Option (List ℕ)} (h : Fraction f fraction)
    (hrest : Stops isPointOrDigit rest) : Stops isDigit (f ++ rest) := by
  cases h with
  | none => exact hrest.mono fun c hc => by simp [isPointOrDigit, hc]
  | digits =>
      intro c hc
      obtain rfl := Option.some.inj hc
      decide

theorem takeUnsigned_of_parts {negative : Bool} {fraction : Option (List ℕ)}
    {exponent : Option Int} (hw : Whole w ds) (hf : Fraction f fraction) (he : Exponent e exponent)
    (hrest : Stops isNumberPart rest) : takeUnsigned negative (w ++ f ++ e ++ rest) =
      some (⟨negative, ds, fraction, exponent⟩, rest) := by
  rw [List.append_assoc, List.append_assoc, takeUnsigned,
    takeWhole_of_whole hw (hf.stops (he.stops hrest))]
  simp only [Option.bind_eq_bind, Option.bind_some,
    takeFraction_of_fraction hf (he.stops hrest), takeExponent_of_exponent he hrest]
  rfl

theorem parts_of_takeUnsigned {negative : Bool} {n : Numeral}
    (h : takeUnsigned negative s = some (n, rest)) : ∃ w f e, s = w ++ f ++ e ++ rest ∧
      n.negative = negative ∧ Whole w n.whole ∧ Fraction f n.fraction ∧ Exponent e n.exponent := by
  simp only [takeUnsigned, Option.bind_eq_bind, Option.bind_eq_some_iff, Option.pure_def,
    Option.some.injEq, Prod.mk.injEq, Prod.exists] at h
  obtain ⟨ds, s₁, hwhole, fraction, s₂, hfraction, exponent, s₃, hexponent, rfl, rfl⟩ := h
  obtain ⟨w, rfl, hw⟩ := whole_of_takeWhole hwhole
  obtain ⟨f, rfl, hf⟩ := fraction_of_takeFraction hfraction
  obtain ⟨e, rfl, he⟩ := exponent_of_takeExponent hexponent
  exact ⟨w, f, e, by simp, rfl, hw, hf, he⟩

theorem Whole.head (h : Whole w ds) : ∃ c w', w = c :: w' ∧ isDigit c = true := by
  obtain ⟨d, ds, hdigits⟩ : ∃ d ds, Digits w (d :: ds) := by
    cases h with
    | zero hdigits | run hdigits => exact ⟨_, _, hdigits⟩
  cases hdigits with
  | @cons c _ w' _ hc => exact ⟨c, w', rfl, by simp [isDigit, hc]⟩

theorem takeNumeral_of_number {n : Numeral} (h : NumberWord w n)
    (hrest : Stops isNumberPart rest) : takeNumeral (w ++ rest) = some (n, rest) := by
  cases h with
  | negative hw hf he =>
      rw [List.cons_append, takeNumeral, takeUnsigned_of_parts hw hf he hrest]
  | @positive w f e _ _ _ hw hf he =>
      rw [← takeUnsigned_of_parts hw hf he hrest]
      obtain ⟨c, w', rfl, hc⟩ := hw.head
      unfold takeNumeral
      split
      · next heq =>
        obtain rfl : c = '-' := (List.cons.inj heq).1
        cases hc
      · rfl

theorem number_of_takeNumeral {n : Numeral} (h : takeNumeral s = some (n, rest)) :
    ∃ w, s = w ++ rest ∧ NumberWord w n := by
  unfold takeNumeral at h
  split at h
  · obtain ⟨w, f, e, rfl, hnegative, hw, hf, he⟩ := parts_of_takeUnsigned h
    obtain ⟨negative, ds, fraction, exponent⟩ := n
    obtain rfl : negative = true := hnegative
    exact ⟨'-' :: (w ++ f ++ e), rfl, .negative hw hf he⟩
  · obtain ⟨w, f, e, rfl, hnegative, hw, hf, he⟩ := parts_of_takeUnsigned h
    obtain ⟨negative, ds, fraction, exponent⟩ := n
    obtain rfl : negative = false := hnegative
    exact ⟨w ++ f ++ e, rfl, .positive hw hf he⟩

end Reading

section Words

variable {w s rest : List Char} {ps : List Piece} {t : Lexeme}

theorem takePieces_of_pieces (h : PieceWords w ps) :
    takePieces (w ++ '"' :: rest) = some (ps, rest) := by
  induction h with
  | nil => rfl
  | @cons w p ws ps hp _ ih =>
      cases hp with
      | @plain c hlow _ hslash =>
          have hplain : ¬ c.toNat < 0x20 := by omega
          simp [takePieces, hslash, hplain, ih]
      | @short e c he =>
          have hcode : e ≠ 'u' := by
            rintro rfl
            cases he
          simp [takePieces, hcode, he, ih]
      | code hu =>
          simp [takePieces, hu, ih]

theorem pieces_of_takePieces (h : takePieces s = some (ps, rest)) :
    ∃ w, s = w ++ '"' :: rest ∧ PieceWords w ps := by
  fun_induction takePieces s generalizing ps rest with
  | case2 r =>
      obtain ⟨rfl, rfl⟩ : [] = ps ∧ r = rest := by simpa using h
      exact ⟨[], rfl, .nil⟩
  | case3 a b c d r u qs rest' htake hu ih =>
      obtain ⟨rfl, rfl⟩ : .code u :: qs = ps ∧ rest' = rest := by simpa using h
      obtain ⟨w, rfl, hw⟩ := ih htake
      exact ⟨_, rfl, .cons (.code hu) hw⟩
  | case5 e r _ c qs rest' htake he ih =>
      obtain ⟨rfl, rfl⟩ : .char c :: qs = ps ∧ rest' = rest := by simpa using h
      obtain ⟨w, rfl, hw⟩ := ih htake
      exact ⟨_, rfl, .cons (.short he) hw⟩
  | case8 c r hquote _ _ hplain qs rest' htake ih =>
      obtain ⟨rfl, rfl⟩ : .char c :: qs = ps ∧ rest' = rest := by simpa using h
      obtain ⟨w, rfl, hw⟩ := ih htake
      simp only [Bool.or_eq_true, decide_eq_true_eq, beq_iff_eq, not_or, Nat.not_lt] at hplain
      exact ⟨_, rfl, .cons (.plain hplain.1 hquote hplain.2) hw⟩
  | case1 | case4 | case6 | case7 | case9 => cases h

def Lexeme.isNumber : Lexeme → Bool
  | .number _ => true
  | _ => false

def startsNumber (c : Char) : Bool :=
  c == '-' || isDigit c

/-- A number starts with a digit or a minus sign. -/
theorem NumberWord.head {n : Numeral} (h : NumberWord w n) :
    ∃ c w', w = c :: w' ∧ startsNumber c = true := by
  cases h with
  | negative => exact ⟨'-', _, rfl, rfl⟩
  | positive hw =>
      obtain ⟨c, w', rfl, hc⟩ := hw.head
      exact ⟨c, _, rfl, by simp [startsNumber, hc]⟩

theorem takeLexeme_of_word (h : LexemeWord w t)
    (hrest : t.isNumber = true → Stops isNumberPart rest) :
    takeLexeme (w ++ rest) = some (t, rest) := by
  cases h with
  | number hn =>
      have htake := takeNumeral_of_number hn (hrest rfl)
      obtain ⟨c, w, rfl, hc⟩ := hn.head
      unfold takeLexeme
      split
      case h_11 =>
        rw [htake]
        rfl
      all_goals
        next heq =>
        obtain rfl := (List.cons.inj heq).1
        exact absurd hc (by decide)
  | @text w ps hps =>
      have htake : takePieces (w ++ ['"'] ++ rest) = some (ps, rest) := by
        rw [List.append_assoc]
        exact takePieces_of_pieces hps
      change Option.map _ (takePieces (w ++ ['"'] ++ rest)) = _
      rw [htake]
      rfl
  | _ => rfl

theorem word_of_takeLexeme (h : takeLexeme s = some (t, rest)) :
    ∃ w, s = w ++ rest ∧ LexemeWord w t := by
  unfold takeLexeme at h
  split at h
  case h_7 r =>
    obtain ⟨⟨ps, rest'⟩, htake, heq⟩ := Option.map_eq_some_iff.mp h
    obtain ⟨rfl, rfl⟩ : .text ps = t ∧ rest' = rest := by simpa using heq
    obtain ⟨w, rfl, hw⟩ := pieces_of_takePieces htake
    exact ⟨'"' :: w ++ ['"'], by simp, .text hw⟩
  case h_11 =>
    obtain ⟨⟨n, rest'⟩, htake, heq⟩ := Option.map_eq_some_iff.mp h
    obtain ⟨rfl, rfl⟩ : .number n = t ∧ rest' = rest := by simpa using heq
    obtain ⟨w, rfl, hw⟩ := number_of_takeNumeral htake
    exact ⟨w, rfl, .number hw⟩
  all_goals
    next r =>
    obtain ⟨rfl, rfl⟩ := Prod.mk.inj (Option.some.inj h)
    exact ⟨_, rfl, by constructor⟩

end Words

/-! ### Written texts -/

section Written

variable {s s' : List Char} {ts us : List Lexeme}

theorem Written.append (h : Written s ts) (h' : Written s' us) : Written (s ++ s') (ts ++ us) := by
  induction h with
  | nil => exact h'
  | space hc _ ih => exact .space hc ih
  | lexeme hw _ ih =>
      rw [List.append_assoc]
      exact .lexeme hw ih

/-- The text of some lexemes falls apart where the lexemes do. -/
theorem Written.split (h : Written s (ts ++ us)) :
    ∃ a b, s = a ++ b ∧ Written a ts ∧ Written b us := by
  generalize hall : ts ++ us = all at h
  induction h generalizing ts with
  | nil =>
      obtain ⟨rfl, rfl⟩ := List.append_eq_nil_iff.mp hall
      exact ⟨[], [], rfl, .nil, .nil⟩
  | @space c s all hc _ ih =>
      obtain ⟨a, b, rfl, ha, hb⟩ := ih hall
      exact ⟨c :: a, b, rfl, .space hc ha, hb⟩
  | @lexeme w t s all hw hs ih =>
      cases ts with
      | nil =>
          obtain rfl : us = t :: all := hall
          exact ⟨[], w ++ s, rfl, .nil, .lexeme hw hs⟩
      | cons t' ts =>
          obtain ⟨rfl, hrest⟩ := List.cons.inj hall
          obtain ⟨a, b, rfl, ha, hb⟩ := ih hrest
          exact ⟨w ++ a, b, (List.append_assoc ..).symm, .lexeme hw ha, hb⟩

theorem LexemeWord.head {w : List Char} {t : Lexeme} (h : LexemeWord w t) :
    ∃ c w', w = c :: w' ∧ isSpace c = false ∧ (t.isNumber = false → isNumberPart c = false) := by
  cases h with
  | number hn =>
      obtain ⟨c, w', rfl, hc⟩ := hn.head
      refine ⟨c, w', rfl, ?_, fun h => by cases h⟩
      cases hspace : isSpace c with
      | false => rfl
      | true =>
          simp only [isSpace, Bool.or_eq_true, beq_iff_eq] at hspace
          rcases hspace with ((rfl | rfl) | rfl) | rfl <;> exact absurd hc (by decide)
  | _ => exact ⟨_, _, rfl, by decide, fun _ => by decide⟩

theorem lexemes?_cons {c : Char} {r rest : List Char} {t : Lexeme} (hc : isSpace c = false)
    (h : takeLexeme (c :: r) = some (t, rest)) :
    lexemes? (c :: r) = (lexemes? rest).map (t :: ·) := by
  rw [lexemes?, if_neg (by simp [hc])]
  split
  · next hnone =>
    rw [h] at hnone
    cases hnone
  · next t' rest' hsome =>
    rw [h] at hsome
    obtain ⟨rfl, rfl⟩ : t = t' ∧ rest = rest' := by simpa using hsome
    rfl

theorem written_of_lexemes (h : lexemes? s = some ts) : Written s ts := by
  fun_induction lexemes? s generalizing ts with
  | case1 =>
      obtain rfl : [] = ts := Option.some.inj h
      exact .nil
  | case2 c r hc ih => exact .space hc (ih h)
  | case3 => cases h
  | case4 c r _ t rest htake _ ih =>
      obtain ⟨us, hus, rfl⟩ := Option.map_eq_some_iff.mp h
      obtain ⟨w, hw, hword⟩ := word_of_takeLexeme htake
      rw [hw]
      exact .lexeme hword (ih hus)

/-- No number follows another one at once. -/
def Apart (ts : List Lexeme) : Prop :=
  ts.IsChain fun t u => t.isNumber = true → u.isNumber = false

theorem isNumberPart_of_isSpace {c : Char} (h : isSpace c = true) : isNumberPart c = false := by
  simp only [isSpace, Bool.or_eq_true, beq_iff_eq] at h
  rcases h with ((rfl | rfl) | rfl) | rfl <;> decide

/-- A number ends where a space or another lexeme starts. -/
theorem Written.stops (h : Written s ts) (hhead : ∀ t ∈ ts.head?, t.isNumber = false) :
    Stops isNumberPart s := by
  cases h with
  | nil =>
      intro c hc
      cases hc
  | space hspace =>
      intro c hc
      obtain rfl := Option.some.inj hc
      exact isNumberPart_of_isSpace hspace
  | @lexeme w t _ _ hw =>
      intro c hc
      obtain ⟨c', w', rfl, -, hpart⟩ := hw.head
      obtain rfl := Option.some.inj hc
      exact hpart (hhead t rfl)

theorem lexemes_of_written (h : Written s ts) (hapart : Apart ts) : lexemes? s = some ts := by
  induction h with
  | nil => rw [lexemes?]
  | @space c s ts hc _ ih => rw [lexemes?, if_pos hc, ih hapart]
  | @lexeme w t s ts hw hs ih =>
      have htake := takeLexeme_of_word hw fun hnumber =>
        hs.stops fun u hu => hapart.rel_head? hu hnumber
      obtain ⟨c, w', rfl, hspace, -⟩ := hw.head
      rw [List.cons_append] at htake ⊢
      rw [lexemes?_cons hspace htake, ih hapart.tail, Option.map_some]

end Written

end EpisodeGuide.Json
