import EpisodeGuide.Proofs.Text.Digit
import EpisodeGuide.Proofs.Toml.Gap

/-! # Quoted texts of TOML

What the four kinds of quoted texts look like, each beside the text that it stands for. A text that
is quoted in one of these ways is read as what it stands for, up to its closing quotes. -/

namespace EpisodeGuide.Toml

open EpisodeGuide.Text

/-! ### What may stand between quotes -/

/-- A character behind a backslash, or its number in four or eight hexadecimal digits. -/
inductive EscapeText : List Char → Char → Prop where
  | short {e c} : shortEscape? e = some c → EscapeText ['\\', e] c
  | code {mark w ds c} : mark = 'u' ∧ w.length = 4 ∨ mark = 'U' ∧ w.length = 8 →
      w.mapM hexDigit? = some ds → character? (ofDigits 16 ds) = some c →
      EscapeText ('\\' :: mark :: w) c

/-- A basic text of one line. -/
inductive BasicText : List Char → List Char → Prop where
  | nil : BasicText [] []
  | plain {c s t} : isPlain c = true → c ≠ '"' → c ≠ '\\' → BasicText s t →
      BasicText (c :: s) (c :: t)
  | escape {w c s t} : EscapeText w c → BasicText s t → BasicText (w ++ s) (c :: t)

/-- Spaces, tabs and line breaks, or none. -/
def IsBlank (s : List Char) : Prop :=
  ∀ c ∈ s, isSpace c = true ∨ c = '\n'

/-- A text that starts with another character than `quote`. -/
def StartsWithout (quote : Char) (s : List Char) : Prop :=
  ∃ c r, s = c :: r ∧ c ≠ quote

/-- A basic text of several lines, up to the quotes at its end. One or two quotes may stand
inside. -/
inductive BasicLines : List Char → List Char → Prop where
  | nil : BasicLines [] []
  | plain {c s t} : isPlain c = true ∨ c = '\n' → c ≠ '"' → c ≠ '\\' → BasicLines s t →
      BasicLines (c :: s) (c :: t)
  | quote {s t} : StartsWithout '"' s → BasicLines s t → BasicLines ('"' :: s) ('"' :: t)
  | quotes {s t} : StartsWithout '"' s → BasicLines s t →
      BasicLines ('"' :: '"' :: s) ('"' :: '"' :: t)
  | escape {w c s t} : EscapeText w c → BasicLines s t → BasicLines (w ++ s) (c :: t)
  | fold {gap blank s t} : IsGap gap → IsBlank blank →
      (∀ c ∈ s.head?, isSpace c = false ∧ c ≠ '\n') → BasicLines s t →
      BasicLines ('\\' :: gap ++ '\n' :: blank ++ s) t

/-- A literal text of several lines, up to the quotes at its end. -/
inductive LiteralLines : List Char → Prop where
  | nil : LiteralLines []
  | plain {c s} : isPlain c = true ∨ c = '\n' → c ≠ '\'' → LiteralLines s → LiteralLines (c :: s)
  | quote {s} : StartsWithout '\'' s → LiteralLines s → LiteralLines ('\'' :: s)
  | quotes {s} : StartsWithout '\'' s → LiteralLines s → LiteralLines ('\'' :: '\'' :: s)

/-- The quotes, at most two, that stand directly before the closing ones. -/
inductive LastQuotes (quote : Char) : List Char → Prop where
  | none : LastQuotes quote []
  | one : LastQuotes quote [quote]
  | two : LastQuotes quote [quote, quote]

/-- A line break that may follow the opening quotes of several lines; without it the text starts
otherwise. -/
inductive FirstBreak : List Char → List Char → Prop where
  | broken (s) : FirstBreak ['\n'] s
  | unbroken {s} : s.head? ≠ some '\n' → FirstBreak [] s

/-- A text of one line in its quotes. -/
inductive QuotedText : List Char → List Char → Prop where
  | basic {s t} : BasicText s t → QuotedText ('"' :: s ++ ['"']) t
  | literal {t} : (∀ c ∈ t, isPlain c = true ∧ c ≠ '\'') → QuotedText ('\'' :: t ++ ['\'']) t

/-- A text in its quotes. -/
inductive TextValue : List Char → List Char → Prop where
  | line {s t} : QuotedText s t → TextValue s t
  | basicLines {first s t last} : FirstBreak first s → BasicLines s t → LastQuotes '"' last →
      TextValue ('"' :: '"' :: '"' :: first ++ s ++ last ++ ['"', '"', '"']) (t ++ last)
  | literalLines {first s last} : FirstBreak first s → LiteralLines s → LastQuotes '\'' last →
      TextValue ('\'' :: '\'' :: '\'' :: first ++ s ++ last ++ ['\'', '\'', '\'']) (s ++ last)

/-! ### Escapes -/

/-- A way of reading in which escapes stand for single characters. -/
structure KnowsEscapes (take : Escape → List Char → Option (List Char × List Char)) : Prop where
  begun : ∀ r, take .outside ('\\' :: r) = take .begun r
  short : ∀ {e c} r, shortEscape? e = some c → take .begun (e :: r) = consText c (take .outside r)
  four : ∀ r, take .begun ('u' :: r) = take (.code 3 0) r
  eight : ∀ r, take .begun ('U' :: r) = take (.code 7 0) r
  more : ∀ {x d} left n r, hexDigit? x = some d →
    take (.code (left + 1) n) (x :: r) = take (.code left (n * 16 + d)) r
  last : ∀ {x d c} n r, hexDigit? x = some d → character? (n * 16 + d) = some c →
    take (.code 0 n) (x :: r) = consText c (take .outside r)

section Escapes

variable {take : Escape → List Char → Option (List Char × List Char)} {w : List Char} {c : Char}
  {ds : List ℕ} {left n : ℕ}

theorem KnowsEscapes.take_code (h : KnowsEscapes take) (hw : w.mapM hexDigit? = some ds)
    (hlength : w.length = left + 1)
    (hc : character? (ds.foldl (fun n d => n * 16 + d) n) = some c) (rest : List Char) :
    take (.code left n) (w ++ rest) = consText c (take .outside rest) := by
  induction w generalizing ds left n with
  | nil => cases hlength
  | cons x w ih =>
      obtain ⟨d, hd, ds', hds, rfl⟩ : ∃ d, hexDigit? x = some d ∧
          ∃ ds', w.mapM hexDigit? = some ds' ∧ d :: ds' = ds := by
        simpa [List.mapM_cons, Option.bind_eq_some_iff] using hw
      cases left with
      | zero =>
          obtain rfl : w = [] := by simpa using hlength
          obtain rfl : [] = ds' := by simpa using hds
          exact h.last n rest hd hc
      | succ left =>
          rw [List.cons_append, h.more left n _ hd]
          exact ih hds (by simpa using hlength) hc

/-- The character of an escape is read, whatever follows. -/
theorem KnowsEscapes.take_escape (h : KnowsEscapes take) (hw : EscapeText w c) (rest : List Char) :
    take .outside (w ++ rest) = consText c (take .outside rest) := by
  cases hw with
  | short he => exact (h.begun _).trans (h.short rest he)
  | code hmark hw hc =>
      rw [List.cons_append, List.cons_append, h.begun]
      rcases hmark with ⟨rfl, hlength⟩ | ⟨rfl, hlength⟩
      · exact (h.four _).trans (h.take_code hw hlength hc rest)
      · exact (h.eight _).trans (h.take_code hw hlength hc rest)

theorem knowsEscapes_takeBasic : KnowsEscapes takeBasic where
  begun _ := rfl
  short {e c} r he := by
    have hu : e ≠ 'u' := by rintro rfl; cases he
    have hU : e ≠ 'U' := by rintro rfl; cases he
    simp [takeBasic, he]
  four _ := rfl
  eight _ := rfl
  more _ _ _ hd := by simp [takeBasic, hd]
  last _ _ hd hc := by simp [takeBasic, hd, hc]

theorem knowsEscapes_takeBasicLines : KnowsEscapes takeBasicLines where
  begun r := by rw [takeBasicLines.eq_def]; rfl
  short {e c} r he := by
    have hu : e ≠ 'u' := by rintro rfl; cases he
    have hU : e ≠ 'U' := by rintro rfl; cases he
    have hspace : isSpace e = false := by
      cases hs : isSpace e with
      | false => rfl
      | true =>
          rcases (by simpa [isSpace] using hs : e = ' ' ∨ e = '\t') with rfl | rfl <;> cases he
    have hbreak : e ≠ '\n' := by rintro rfl; cases he
    rw [takeBasicLines.eq_def]
    simp [hspace, hbreak, he]
  four _ := rfl
  eight _ := rfl
  more _ _ _ hd := by simp [takeBasicLines, hd]
  last _ _ hd hc := by simp [takeBasicLines, hd, hc]

end Escapes

/-! ### Texts of one line -/

section

variable {s t last rest : List Char} {quote : Char}

theorem takeBasic_of_basicText (h : BasicText s t) (rest : List Char) :
    takeBasic .outside (s ++ '"' :: rest) = some (t, rest) := by
  induction h with
  | nil => rfl
  | plain hplain hquote hslash _ ih =>
      simp [takeBasic, hplain, ih, consText]
  | escape hescape _ ih =>
      rw [List.append_assoc, knowsEscapes_takeBasic.take_escape hescape, ih]
      rfl

theorem takeLiteral_of_plain (h : ∀ c ∈ t, isPlain c = true ∧ c ≠ '\'') (rest : List Char) :
    takeLiteral (t ++ '\'' :: rest) = some (t, rest) := by
  induction t with
  | nil => rfl
  | cons c t ih =>
      obtain ⟨⟨hplain, hquote⟩, ht⟩ := List.forall_mem_cons.mp h
      simp [takeLiteral, hquote, hplain, ih ht, consText]

theorem takeQuoted_of_quotedText (h : QuotedText s t) (rest : List Char) :
    takeQuoted (s ++ rest) = some (t, rest) := by
  cases h with
  | basic hs => simpa [takeQuoted] using takeBasic_of_basicText hs rest
  | literal ht => simpa [takeQuoted] using takeLiteral_of_plain ht rest

/-! ### Texts of several lines -/

/-- Quotes in front of the closing ones belong to the text, unless more quotes follow. -/
theorem takeClosing_of_lastQuotes (h : LastQuotes quote last) (hrest : rest.head? ≠ some quote) :
    takeClosing quote (last ++ rest) = (last, rest) := by
  cases h with
  | two => simp [takeClosing]
  | one => rcases rest with - | ⟨a, rest⟩ <;> simp_all [takeClosing]
  | none => rcases rest with - | ⟨a, - | ⟨b, rest⟩⟩ <;> simp_all [takeClosing]

/-- Three quotes and what stands directly before them are the same either way round. -/
theorem LastQuotes.append_closing (h : LastQuotes quote last) (rest : List Char) :
    last ++ quote :: quote :: quote :: rest = quote :: quote :: quote :: (last ++ rest) := by
  cases h <;> rfl

theorem takeBasicLines_plain {c : Char} (hplain : isPlain c = true ∨ c = '\n') (hquote : c ≠ '"')
    (hslash : c ≠ '\\') (r : List Char) :
    takeBasicLines .outside (c :: r) = consText c (takeBasicLines .outside r) := by
  rw [takeBasicLines.eq_def]
  simp_all

/-- A quote stands for itself unless two more quotes follow. -/
theorem takeBasicLines_quote (h : ∀ r, s ≠ '"' :: '"' :: r) :
    takeBasicLines .outside ('"' :: s) = consText '"' (takeBasicLines .outside s) := by
  have hplain : isPlain '"' = true := by decide
  rw [takeBasicLines.eq_def]
  split
  · next heq => exact (h _ (List.cons.inj heq).2).elim
  · next heq => cases heq
  · next heq =>
    obtain ⟨rfl, rfl⟩ := List.cons.inj heq
    simp [hplain]
  all_goals contradiction

/-- Spaces between a backslash and the end of its line are passed over. -/
theorem takeBasicLines_gap {gap : List Char} (h : IsGap gap) (r : List Char) :
    takeBasicLines .lineEnd (gap ++ '\n' :: r) = takeBasicLines .fold r := by
  induction gap with
  | nil => simp [takeBasicLines, isSpace]
  | cons c gap ih =>
      obtain ⟨hc, hgap⟩ := List.forall_mem_cons.mp h
      simp [takeBasicLines, hc, ih hgap]

theorem takeBasicLines_begun_gap {gap : List Char} (h : IsGap gap) (r : List Char) :
    takeBasicLines .begun (gap ++ '\n' :: r) = takeBasicLines .fold r := by
  cases gap with
  | nil => simp [takeBasicLines, isSpace]
  | cons c gap =>
      obtain ⟨hc, hgap⟩ := List.forall_mem_cons.mp h
      have hu : c ≠ 'u' := by rintro rfl; cases hc
      have hU : c ≠ 'U' := by rintro rfl; cases hc
      simp [takeBasicLines, hc, takeBasicLines_gap hgap]

/-- A backslash at the end of a line takes the blanks in front of the next character away. -/
theorem takeBasicLines_fold {blank : List Char} (h : IsBlank blank)
    (hs : ∀ c ∈ s.head?, isSpace c = false ∧ c ≠ '\n') :
    takeBasicLines .fold (blank ++ s) = takeBasicLines .outside s := by
  induction blank with
  | nil =>
      cases s with
      | nil => rfl
      | cons c r =>
          obtain ⟨hspace, hbreak⟩ := hs c rfl
          rw [List.nil_append, takeBasicLines.eq_def, takeBasicLines.eq_def .outside]
          split <;> simp_all
  | cons c blank ih =>
      obtain ⟨hc, hblank⟩ := List.forall_mem_cons.mp h
      have hquote : c ≠ '"' := by rintro rfl; revert hc; decide
      have hslash : c ≠ '\\' := by rintro rfl; revert hc; decide
      rw [List.cons_append, takeBasicLines.eq_def]
      simp [hquote, hc, ih hblank]

theorem takeBasicLines_of_basicLines (h : BasicLines s t) (hlast : LastQuotes '"' last)
    (hrest : rest.head? ≠ some '"') :
    takeBasicLines .outside (s ++ (last ++ '"' :: '"' :: '"' :: rest)) =
      some (t ++ last, rest) := by
  induction h with
  | nil =>
      rw [List.nil_append, hlast.append_closing, takeBasicLines,
        takeClosing_of_lastQuotes hlast hrest]
      rfl
  | plain hplain hquote hslash _ ih =>
      rw [List.cons_append, takeBasicLines_plain hplain hquote hslash, ih]
      rfl
  | quote hs _ ih =>
      obtain ⟨c, r, rfl, hc⟩ := hs
      rw [List.cons_append, takeBasicLines_quote (by simp [hc]), ih]
      rfl
  | quotes hs _ ih =>
      obtain ⟨c, r, rfl, hc⟩ := hs
      rw [List.cons_append, List.cons_append, takeBasicLines_quote (by simp [hc]),
        takeBasicLines_quote (by simp [hc]), ih]
      rfl
  | escape hw _ ih =>
      rw [List.append_assoc, knowsEscapes_takeBasicLines.take_escape hw, ih]
      rfl
  | @fold gap blank s t hgap hblank hhead _ ih =>
      have hnext : ∀ c ∈ (s ++ (last ++ '"' :: '"' :: '"' :: rest)).head?,
          isSpace c = false ∧ c ≠ '\n' := by
        cases s with
        | nil => rw [List.nil_append, hlast.append_closing]; simp [isSpace]
        | cons c s => exact hhead
      simp only [List.cons_append, List.append_assoc]
      rw [knowsEscapes_takeBasicLines.begun, takeBasicLines_begun_gap hgap,
        takeBasicLines_fold hblank hnext, ih]

theorem takeLiteralLines_plain {c : Char} (hplain : isPlain c = true ∨ c = '\n')
    (h : ∀ r, c :: s ≠ '\'' :: '\'' :: '\'' :: r) :
    takeLiteralLines (c :: s) = consText c (takeLiteralLines s) := by
  rw [takeLiteralLines.eq_def]
  split
  · next heq => exact (h _ heq).elim
  · next heq =>
    obtain ⟨rfl, rfl⟩ := List.cons.inj heq
    simp [hplain]
  · next heq => cases heq

theorem takeLiteralLines_of_literalLines (h : LiteralLines s) (hlast : LastQuotes '\'' last)
    (hrest : rest.head? ≠ some '\'') :
    takeLiteralLines (s ++ (last ++ '\'' :: '\'' :: '\'' :: rest)) = some (s ++ last, rest) := by
  have hquote : isPlain '\'' = true ∨ '\'' = '\n' := .inl (by decide)
  induction h with
  | nil =>
      rw [List.nil_append, hlast.append_closing, takeLiteralLines,
        takeClosing_of_lastQuotes hlast hrest]
      rfl
  | plain hplain hc _ ih =>
      rw [List.cons_append, takeLiteralLines_plain hplain (by simp [hc]), ih]
      rfl
  | quote hs _ ih =>
      obtain ⟨c, r, rfl, hc⟩ := hs
      rw [List.cons_append, takeLiteralLines_plain hquote (by simp [hc]), ih]
      rfl
  | quotes hs _ ih =>
      obtain ⟨c, r, rfl, hc⟩ := hs
      rw [List.cons_append, List.cons_append, takeLiteralLines_plain hquote (by simp [hc]),
        takeLiteralLines_plain hquote (by simp [hc]), ih]
      rfl

theorem dropFirstBreak_append {first : List Char} (h : FirstBreak first s)
    (ht : t.head? ≠ some '\n') : dropFirstBreak (first ++ (s ++ t)) = s ++ t := by
  cases h with
  | broken => rfl
  | unbroken hhead =>
      have hboth : (s ++ t).head? ≠ some '\n' := by
        cases s with
        | nil => exact ht
        | cons c s => exact hhead
      rw [List.nil_append, dropFirstBreak.eq_def]
      split <;> simp_all

theorem EscapeText.head {w : List Char} {c : Char} (h : EscapeText w c) : ∃ r, w = '\\' :: r := by
  cases h <;> exact ⟨_, rfl⟩

/-- Only an empty text of one line has two quotes at its start, and no third one follows. -/
theorem QuotedText.ne_quotes (h : QuotedText s t) (hrest : ∀ c ∈ rest.head?, c ≠ '"' ∧ c ≠ '\'')
    (q : Char) (r : List Char) : s ++ rest ≠ q :: q :: q :: r := by
  have hempty {q : Char} (hq : q = '"' ∨ q = '\'') : q :: q :: rest ≠ q :: q :: q :: r := by
    intro heq
    have hhead : q ∈ rest.head? := by simp [(List.cons.inj (List.cons.inj heq).2).2]
    rcases hq with rfl | rfl
    · exact (hrest _ hhead).1 rfl
    · exact (hrest _ hhead).2 rfl
  intro heq
  cases h with
  | @basic s t hs =>
      obtain rfl : '"' = q := (List.cons.inj heq).1
      cases hs with
      | nil => exact hempty (.inl rfl) heq
      | plain _ hquote => exact hquote (by simp_all)
      | escape hw =>
          obtain ⟨w, rfl⟩ := hw.head
          simp at heq
  | literal ht =>
      obtain rfl : '\'' = q := (List.cons.inj heq).1
      cases t with
      | nil => exact hempty (.inr rfl) heq
      | cons c t => exact (ht c (by simp)).2 (by simp_all)

/-- A text in its quotes is read, unless another quote follows at once. -/
theorem takeText_of_textValue (h : TextValue s t) (hrest : ∀ c ∈ rest.head?, c ≠ '"' ∧ c ≠ '\'') :
    takeText (s ++ rest) = some (t, rest) := by
  have hbasic : rest.head? ≠ some '"' := fun heq => (hrest _ heq).1 rfl
  have hliteral : rest.head? ≠ some '\'' := fun heq => (hrest _ heq).2 rfl
  cases h with
  | line hs =>
      have hread := takeQuoted_of_quotedText hs rest
      rw [takeText.eq_def]
      split
      · next heq => exact (hs.ne_quotes hrest _ _ heq).elim
      · next heq => exact (hs.ne_quotes hrest _ _ heq).elim
      · exact hread
  | @basicLines first s t last hfirst hs hlast =>
      have hclosing : (last ++ '"' :: '"' :: '"' :: rest).head? ≠ some '\n' := by
        simp [hlast.append_closing]
      have hdrop := dropFirstBreak_append hfirst hclosing
      have hread := takeBasicLines_of_basicLines hs hlast hbasic
      simpa [takeText, hdrop] using hread
  | @literalLines first s last hfirst hs hlast =>
      have hclosing : (last ++ '\'' :: '\'' :: '\'' :: rest).head? ≠ some '\n' := by
        simp [hlast.append_closing]
      have hdrop := dropFirstBreak_append hfirst hclosing
      have hread := takeLiteralLines_of_literalLines hs hlast hliteral
      simpa [takeText, hdrop] using hread

end

/-! ### Texts that are written -/

/-- A character that does not stand for itself can be written as its number. -/
theorem exists_escapeText {c : Char} (h : c.toNat < 128) : ∃ w, EscapeText w c ∧ '\r' ∉ w := by
  have hcodes : ∀ n < 128,
      ['0', '0', upperHexDigit (n / 16), upperHexDigit (n % 16)].mapM hexDigit? =
        some [0, 0, n / 16, n % 16] ∧
      character? (ofDigits 16 [0, 0, n / 16, n % 16]) = some (Char.ofNat n) ∧
      '\r' ∉ [upperHexDigit (n / 16), upperHexDigit (n % 16)] := by decide
  obtain ⟨hdigits, hc, hbreak⟩ := hcodes c.toNat h
  rw [Char.ofNat_toNat] at hc
  exact ⟨_, .code (.inl ⟨rfl, rfl⟩) hdigits hc, by simpa using hbreak⟩

/-- Every text can be written as a basic text of one line. -/
theorem exists_basicText (t : List Char) : ∃ s, BasicText s t ∧ '\r' ∉ s := by
  induction t with
  | nil => exact ⟨[], .nil, by simp⟩
  | cons c t ih =>
      obtain ⟨s, hs, hbreak⟩ := ih
      by_cases hplain : isPlain c = true ∧ c ≠ '"' ∧ c ≠ '\\'
      · have hc : c ≠ '\r' := by rintro rfl; cases hplain.1
        exact ⟨c :: s, .plain hplain.1 hplain.2.1 hplain.2.2 hs, by simp [hc.symm, hbreak]⟩
      · have hcode : c.toNat < 128 := by
          by_contra hbeyond
          have hquote : c ≠ '"' := by rintro rfl; exact hbeyond (by decide)
          have hslash : c ≠ '\\' := by rintro rfl; exact hbeyond (by decide)
          refine hplain ⟨?_, hquote, hslash⟩
          have hlow : 0x20 ≤ c.toNat := by omega
          have hdelete : c.toNat ≠ 0x7f := by omega
          simp [isPlain, hlow, hdelete]
        obtain ⟨w, hw, hescape⟩ := exists_escapeText hcode
        exact ⟨w ++ s, .escape hw hs, by simp [hescape, hbreak]⟩

end EpisodeGuide.Toml
