import EpisodeGuide.Proofs.Text.Digit
import EpisodeGuide.Proofs.Toml.Gap

/-! # Numbers of TOML

What integers and real numbers look like, and that they are read as what they stand for. An integer
needs to fit 64 bits, and a real number above zero must not be too large. -/

namespace EpisodeGuide.Toml

open EpisodeGuide.Text

/-! ### What numbers look like -/

/-- Digits behind others; an underscore may stand before each. -/
inductive MoreDigits (value? : Char → Option ℕ) : List Char → List ℕ → Prop where
  | nil : MoreDigits value? [] []
  | digit {c d w ds} : value? c = some d → MoreDigits value? w ds →
      MoreDigits value? (c :: w) (d :: ds)
  | spaced {c d w ds} : value? c = some d → MoreDigits value? w ds →
      MoreDigits value? ('_' :: c :: w) (d :: ds)

/-- A run of digits, underscores between them. -/
inductive SpacedDigits (value? : Char → Option ℕ) : List Char → List ℕ → Prop where
  | start {c d w ds} : value? c = some d → MoreDigits value? w ds →
      SpacedDigits value? (c :: w) (d :: ds)

/-- A decimal number: a zero alone, or a run of digits that starts otherwise. -/
inductive WholeText : List Char → List ℕ → Prop where
  | zero : WholeText ['0'] [0]
  | run {w d ds} : SpacedDigits digit? w (d :: ds) → d ≠ 0 → WholeText w (d :: ds)

inductive SignText : List Char → Bool → Prop where
  | none : SignText [] false
  | plus : SignText ['+'] false
  | minus : SignText ['-'] true

def signed (negative : Bool) (n : ℕ) : ℤ :=
  if negative then -n else n

/-- The marks of the bases besides ten, and their digits. -/
inductive BaseMark : Char → ℕ → (Char → Option ℕ) → Prop where
  | hexadecimal : BaseMark 'x' 16 hexDigit?
  | octal : BaseMark 'o' 8 (smallDigit? 8)
  | binary : BaseMark 'b' 2 (smallDigit? 2)

inductive IntegerText : List Char → ℤ → Prop where
  | decimal {sign negative w ds} : SignText sign negative → WholeText w ds →
      IntegerText (sign ++ w) (signed negative (ofDigits 10 ds))
  | based {mark base value? w ds} : BaseMark mark base value? → SpacedDigits value? w ds →
      IntegerText ('0' :: mark :: w) (ofDigits base ds)

inductive ExponentText : List Char → ℤ → Prop where
  | digits {mark sign negative w ds} : mark = 'e' ∨ mark = 'E' → SignText sign negative →
      SpacedDigits digit? w ds →
      ExponentText (mark :: (sign ++ w)) (signed negative (ofDigits 10 ds))

/-- What makes a number real: digits behind a point, an exponent, or both. -/
inductive RealPart : List Char → List ℕ → ℤ → Prop where
  | fraction {w ds} : SpacedDigits digit? w ds → RealPart ('.' :: w) ds 0
  | exponent {w e} : ExponentText w e → RealPart w [] e
  | both {w ds w' e} : SpacedDigits digit? w ds → ExponentText w' e →
      RealPart ('.' :: (w ++ w')) ds e

inductive RealText : List Char → RealNumber → Prop where
  | decimal {sign negative w ds p fraction e} : SignText sign negative → WholeText w ds →
      RealPart p fraction e →
      RealText (sign ++ (w ++ p)) (.decimal negative (ds ++ fraction) (e - fraction.length))
  | infinite {sign negative} : SignText sign negative →
      RealText (sign ++ ['i', 'n', 'f']) (.infinite negative)
  | undefined {sign negative} : SignText sign negative →
      RealText (sign ++ ['n', 'a', 'n']) .undefined

/-- Whether a real number is not too large to be read. -/
def RealNumber.Held : RealNumber → Prop
  | .decimal false digits e => isFinite digits e = true
  | _ => True

/-! ### Digits -/

section

variable {value? : Char → Option ℕ} {w p sign s rest : List Char} {ds fraction : List ℕ}
  {negative : Bool} {e : ℤ}

/-- The text does not go on with a digit or an underscore. -/
def StopsDigits (value? : Char → Option ℕ) (rest : List Char) : Prop :=
  ∀ c ∈ rest.head?, value? c = none ∧ c ≠ '_'

theorem takeMoreDigits_of_moreDigits (h : MoreDigits value? w ds) (hspace : value? '_' = none)
    (hrest : StopsDigits value? rest) : takeMoreDigits value? (w ++ rest) = (ds, rest) := by
  induction h with
  | nil =>
      cases rest with
      | nil => rfl
      | cons c r =>
          obtain ⟨hc, hne⟩ := hrest c rfl
          simp [takeMoreDigits, hne, hc]
  | @digit c d w ds hc _ ih =>
      have hne : c ≠ '_' := by rintro rfl; simp [hspace] at hc
      simp [takeMoreDigits, hne, hc, ih]
  | @spaced c d w ds hc _ ih =>
      simp [takeMoreDigits, hc, ih]

theorem takeSpacedDigits_of_spacedDigits (h : SpacedDigits value? w ds) (hspace : value? '_' = none)
    (hrest : StopsDigits value? rest) :
    takeSpacedDigits value? (w ++ rest) = some (ds, rest) := by
  cases h with
  | start hc hw => simp [takeSpacedDigits, hc, takeMoreDigits_of_moreDigits hw hspace hrest]

theorem takeWhole_of_wholeText (h : WholeText w ds) (hrest : StopsDigits digit? rest) :
    takeWhole (w ++ rest) = some (ds, rest) := by
  cases h with
  | zero => rfl
  | run hw hne =>
      cases hw with
      | @start c d w ds hc hw =>
          have hzero : c ≠ '0' := by
            rintro rfl
            exact hne (Option.some.inj hc).symm
          rw [← takeSpacedDigits_of_spacedDigits (.start hc hw) rfl hrest,
            List.cons_append, takeWhole]
          simp [hzero]

/-! ### Real numbers -/

theorem Ends.stopsDigits (h : Ends rest)
    (hvalue : (' ' :: '\t' :: stoppers).all (fun c => decide (value? c = none)) = true) :
    StopsDigits value? rest :=
  fun c hc => ⟨h.forall_head hvalue c hc, h.forall_head (P := (· ≠ '_')) (by decide) c hc⟩

theorem takeSign_of_signText (h : SignText sign negative) (hs : ∀ c ∈ s.head?, c ≠ '+' ∧ c ≠ '-') :
    takeSign (sign ++ s) = (negative, s) := by
  cases h with
  | plus | minus => rfl
  | none =>
      rw [List.nil_append, takeSign.eq_def]
      split
      · exact ((hs _ rfl).1 rfl).elim
      · exact ((hs _ rfl).2 rfl).elim
      · rfl

theorem SpacedDigits.head (h : SpacedDigits value? w ds) (rest : List Char) :
    ∃ c d r, w ++ rest = c :: r ∧ value? c = some d := by
  cases h with
  | start hc _ => exact ⟨_, _, _, rfl, hc⟩

theorem WholeText.spacedDigits (h : WholeText w ds) : SpacedDigits digit? w ds := by
  cases h with
  | zero => exact .start rfl .nil
  | run hw _ => exact hw

theorem SpacedDigits.no_sign (h : SpacedDigits digit? w ds) (rest : List Char) :
    ∀ c ∈ (w ++ rest).head?, c ≠ '+' ∧ c ≠ '-' := by
  obtain ⟨c, d, r, hw, hc⟩ := h.head rest
  rw [hw]
  rintro x hx
  obtain rfl : c = x := Option.some.inj hx
  constructor <;> rintro rfl <;> cases hc

theorem takeExponent_of_exponentText (h : ExponentText w e) (hrest : Ends rest) :
    takeExponent (w ++ rest) = some (e, rest) := by
  cases h with
  | @digits mark sign negative w ds hmark hsign hw =>
      have hmark' : (mark == 'e' || mark == 'E') = true := by simpa using hmark
      have hread := takeSpacedDigits_of_spacedDigits hw rfl (hrest.stopsDigits (by decide))
      rw [List.cons_append, List.append_assoc, takeExponent]
      simp only [hmark', takeSign_of_signText hsign (hw.no_sign rest), hread]
      rfl

theorem ExponentText.head (h : ExponentText w e) :
    ∃ mark r, w = mark :: r ∧ (mark = 'e' ∨ mark = 'E') := by
  cases h with
  | digits hmark => exact ⟨_, _, rfl, hmark⟩

theorem takeRealPart_of_realPart (h : RealPart p fraction e) (hrest : Ends rest) :
    takeRealPart (p ++ rest) = some ((fraction, e), rest) := by
  have hstop : StopsDigits digit? rest := hrest.stopsDigits (by decide)
  cases h with
  | fraction hw =>
      have hnone : takeExponent rest = none := by
        cases rest with
        | nil => rfl
        | cons c r =>
            have hc := hrest.forall_head (P := fun c => c ≠ 'e' ∧ c ≠ 'E') (by decide) c rfl
            simp [takeExponent, hc]
      simp [takeRealPart, takeFraction, takeSpacedDigits_of_spacedDigits hw rfl hstop, hnone]
  | exponent hw =>
      obtain ⟨mark, r, rfl, hmark⟩ := hw.head
      have hnone : takeFraction (mark :: (r ++ rest)) = none := by
        rcases hmark with rfl | rfl <;> rfl
      have hread := takeExponent_of_exponentText hw hrest
      rw [List.cons_append] at hread ⊢
      simp [takeRealPart, hnone, hread]
  | @both w ds w' e hw hw' =>
      obtain ⟨mark, r, rfl, hmark⟩ := hw'.head
      have hstop' : StopsDigits digit? (mark :: r ++ rest) := by
        rintro c hc
        obtain rfl : mark = c := Option.some.inj hc
        rcases hmark with rfl | rfl <;> decide
      have hfraction := takeSpacedDigits_of_spacedDigits hw rfl hstop'
      have hread := takeExponent_of_exponentText hw' hrest
      rw [List.cons_append, List.append_assoc]
      simp only [takeRealPart, takeFraction, hfraction, hread]

/-- What makes a number real starts with a point or a mark. -/
theorem RealPart.head (h : RealPart p fraction e) :
    ∃ c r, p = c :: r ∧ c ∈ ['.', 'e', 'E'] := by
  cases h with
  | fraction _ => exact ⟨_, _, rfl, by simp⟩
  | both _ _ => exact ⟨_, _, rfl, by simp⟩
  | exponent hw =>
      obtain ⟨mark, r, rfl, hmark⟩ := hw.head
      exact ⟨mark, r, rfl, by simpa using .inr hmark⟩

theorem stopsDigits_of_realPart (h : RealPart p fraction e) (rest : List Char) :
    StopsDigits digit? (p ++ rest) := by
  obtain ⟨c, r, rfl, hc⟩ := h.head
  rintro x hx
  obtain rfl : c = x := Option.some.inj hx
  have hstop : ∀ c ∈ ['.', 'e', 'E'], digit? c = none ∧ c ≠ '_' := forall_mem_of_all (by decide)
  exact hstop c hc

/-- The number behind its sign: digits are never the start of a word. -/
theorem takeReal_decimal (hsign : SignText sign negative) (hw : WholeText w ds)
    (hrest : StopsDigits digit? rest) :
    takeReal (sign ++ (w ++ rest)) = (takeRealPart rest).bind fun ((fraction, e), rest) =>
      if isFinite (ds ++ fraction) (e - fraction.length) then
        some (.decimal negative (ds ++ fraction) (e - fraction.length), rest)
      else if negative then some (.infinite true, rest)
      else none := by
  obtain ⟨c, d, r, hhead, hc⟩ := hw.spacedDigits.head rest
  have hread := takeWhole_of_wholeText hw hrest
  have hi : c ≠ 'i' := by rintro rfl; cases hc
  have hn : c ≠ 'n' := by rintro rfl; cases hc
  rw [takeReal, takeSign_of_signText hsign (hw.spacedDigits.no_sign rest)]
  rw [hhead] at hread ⊢
  simp only
  split
  · next heq => exact (hi (List.cons.inj heq).1).elim
  · next heq => exact (hn (List.cons.inj heq).1).elim
  · rw [hread]
    rfl

/-- A real number that is not too large is read as a real number. -/
theorem exists_takeReal {x : RealNumber} (h : RealText s x) (hheld : x.Held) (hrest : Ends rest) :
    ∃ x', takeReal (s ++ rest) = some (x', rest) := by
  cases h with
  | @decimal sign negative w ds p fraction e hsign hw hp =>
      have hread := takeReal_decimal hsign hw (stopsDigits_of_realPart hp rest)
      rw [takeRealPart_of_realPart hp hrest] at hread
      rw [List.append_assoc, List.append_assoc, hread]
      cases negative with
      | false =>
          have hfinite : isFinite (ds ++ fraction) (e - fraction.length) = true := hheld
          simp [hfinite]
      | true =>
          by_cases hfinite : isFinite (ds ++ fraction) (e - fraction.length) <;> simp [hfinite]
  | infinite hsign =>
      rw [List.append_assoc, takeReal, takeSign_of_signText hsign (by simp)]
      exact ⟨_, rfl⟩
  | undefined hsign =>
      rw [List.append_assoc, takeReal, takeSign_of_signText hsign (by simp)]
      exact ⟨_, rfl⟩

/-! ### Integers -/

/-- A decimal number is read up to what follows its digits. -/
theorem takeInteger_decimal (hsign : SignText sign negative) (hw : WholeText w ds)
    (hrest : StopsDigits digit? rest) (hmark : ∀ c ∈ rest.head?, c ∉ ['x', 'o', 'b']) :
    takeInteger (sign ++ (w ++ rest)) =
      (narrow? (signed negative (ofDigits 10 ds))).map (·, rest) := by
  -- A zero stands alone, so no mark of a base follows one.
  have hbase : ∀ mark ∈ ['x', 'o', 'b'], ∀ r, sign ++ (w ++ rest) ≠ '0' :: mark :: r := by
    intro mark hmem r heq
    cases hsign with
    | plus | minus => exact absurd (List.cons.inj heq).1 (by decide)
    | none =>
        cases hw with
        | zero =>
            obtain rfl : rest = mark :: r := (List.cons.inj heq).2
            exact hmark mark rfl hmem
        | run hw hne =>
            cases hw with
            | start hc _ =>
                obtain rfl := (List.cons.inj heq).1
                exact hne (Option.some.inj hc).symm
  rw [takeInteger.eq_def]
  split
  · next heq => exact (hbase 'x' (by simp) _ heq).elim
  · next heq => exact (hbase 'o' (by simp) _ heq).elim
  · next heq => exact (hbase 'b' (by simp) _ heq).elim
  · rw [takeSign_of_signText hsign (hw.spacedDigits.no_sign rest)]
    simp only [takeWhole_of_wholeText hw hrest]
    rfl

theorem takeInteger_of_integerText {i : ℤ} (h : IntegerText s i) (hrest : Ends rest) :
    takeInteger (s ++ rest) = (narrow? i).map (·, rest) := by
  cases h with
  | decimal hsign hw =>
      rw [List.append_assoc]
      exact takeInteger_decimal hsign hw (hrest.stopsDigits (by decide))
        (hrest.forall_head (by decide))
  | @based mark base value? w ds hmark hw =>
      have hspaced (hspace : value? '_' = none)
          (hfollow : (' ' :: '\t' :: stoppers).all (fun c => decide (value? c = none)) = true) :
          takeBased base value? (w ++ rest) = (narrow? (ofDigits base ds)).map (·, rest) := by
        rw [takeBased, takeSpacedDigits_of_spacedDigits hw hspace (hrest.stopsDigits hfollow),
          Option.bind_some]
      rw [List.cons_append, List.cons_append]
      cases hmark with
      | hexadecimal => rw [takeInteger, hspaced rfl (by decide)]
      | octal => rw [takeInteger, hspaced rfl (by decide)]
      | binary => rw [takeInteger, hspaced rfl (by decide)]

theorem takeReal_of_integerText {i : ℤ} (h : IntegerText s i) (hrest : Ends rest) :
    takeReal (s ++ rest) = none := by
  have hpart {t : List Char} (ht : ∀ c ∈ t.head?, c ∉ ['.', 'e', 'E']) : takeRealPart t = none := by
    cases t with
    | nil => rfl
    | cons c t =>
        have hc := ht c rfl
        simp only [List.mem_cons, List.not_mem_nil, or_false, not_or] at hc
        simp [takeRealPart, takeFraction, takeExponent, hc]
  cases h with
  | decimal hsign hw =>
      rw [List.append_assoc, takeReal_decimal hsign hw (hrest.stopsDigits (by decide)), hpart]
      · rfl
      · exact hrest.forall_head (by decide)
  | @based mark base value? w ds hmark hw =>
      have hstop : mark ∉ ['.', 'e', 'E'] ∧ digit? mark = none ∧ mark ≠ '_' := by
        cases hmark <;> decide
      have hstops : StopsDigits digit? (mark :: (w ++ rest)) := by
        simpa [StopsDigits] using hstop.2
      have hread := takeReal_decimal .none .zero hstops
      rw [hpart (by simpa using hstop.1)] at hread
      exact hread

end

/-! ### Numbers that are written -/

theorem MoreDigits.concat {value? : Char → Option ℕ} {w : List Char} {ds : List ℕ} {c : Char}
    {d : ℕ} (h : MoreDigits value? w ds) (hc : value? c = some d) :
    MoreDigits value? (w ++ [c]) (ds ++ [d]) := by
  induction h with
  | nil => exact .digit hc .nil
  | digit hx _ ih => exact .digit hx ih
  | spaced hx _ ih => exact .spaced hx ih

/-- Every natural number can be written. -/
theorem exists_wholeText (n : ℕ) : ∃ w ds, WholeText w ds ∧ ofDigits 10 ds = n ∧ '\r' ∉ w := by
  have hdigits : ∀ d < 10, digit? (Nat.digitChar d) = some d ∧ '\r' ≠ Nat.digitChar d := by decide
  induction n using Nat.strongRecOn with
  | ind n ih =>
      obtain ⟨hlast, hbreak⟩ := hdigits (n % 10) (Nat.mod_lt n (by decide))
      by_cases hn : n < 10
      · rw [Nat.mod_eq_of_lt hn] at hlast hbreak
        rcases Nat.eq_zero_or_pos n with rfl | hpos
        · exact ⟨_, _, .zero, rfl, by decide⟩
        · have hhead : n ≠ 0 := Nat.ne_of_gt hpos
          exact ⟨_, _, .run (.start hlast .nil) hhead, by simp [ofDigits], by simp [hbreak]⟩
      · obtain ⟨w, ds, hw, hvalue, hbreak'⟩ := ih (n / 10) (by omega)
        cases hw with
        | zero => exact absurd hvalue (by simp [ofDigits]; omega)
        | @run w d ds hw hne =>
            cases hw with
            | @start c d w ds hc hmore =>
                refine ⟨c :: w ++ [Nat.digitChar (n % 10)], _,
                  .run (.start hc (hmore.concat hlast)) hne, ?_, ?_⟩
                · rw [← List.cons_append, ofDigits_concat, hvalue]
                  omega
                · simpa [hbreak] using hbreak'

end EpisodeGuide.Toml
