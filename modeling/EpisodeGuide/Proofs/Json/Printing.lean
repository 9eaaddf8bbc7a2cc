import EpisodeGuide.Json.Printer
import EpisodeGuide.Proofs.Json.Grammar
import EpisodeGuide.Proofs.Text.Digit

/-! # Printed values

The compact text of a value and its pretty text spell one document. Both are put together in the
same way and differ in the spaces between the lexemes only. -/

namespace EpisodeGuide.Json

open EpisodeGuide.Text

/-! ### Quoted texts -/

def Piece.quoting (c : Char) : Piece :=
  if c.toNat < 0x20 ∧ c ∉ ['\x08', '\x0c', '\n', '\r', '\t'] then .code c.toNat else .char c

theorem unit?_lowerHexDigit {n : ℕ} (h : n < 0x20) :
    unit? '0' '0' (lowerHexDigit (n / 16)) (lowerHexDigit (n % 16)) = some n := by
  decide +revert

theorem pieceWord_escapeChar (c : Char) : PieceWord (escapeChar c) (.quoting c) := by
  unfold escapeChar
  split_ifs with hquote hslash hb hf hn hr ht hcontrol
  · subst hquote; exact .short rfl
  · subst hslash; exact .short rfl
  · subst hb; exact .short rfl
  · subst hf; exact .short rfl
  · subst hn; exact .short rfl
  · subst hr; exact .short rfl
  · subst ht; exact .short rfl
  · have hcode : Piece.quoting c = .code c.toNat := by
      simp [Piece.quoting, hcontrol, hb, hf, hn, hr, ht]
    rw [hcode]
    exact .code (unit?_lowerHexDigit hcontrol)
  · have hchar : Piece.quoting c = .char c := by simp [Piece.quoting, hcontrol]
    rw [hchar]
    exact .plain (by omega) hquote hslash

theorem pieceWords_flatMap (s : List Char) :
    PieceWords (s.flatMap escapeChar) (s.map Piece.quoting) := by
  induction s with
  | nil => exact .nil
  | cons c s ih => exact .cons (pieceWord_escapeChar c) ih

theorem lexemeWord_quote (s : List Char) : LexemeWord (quote s) (.text (s.map Piece.quoting)) :=
  .text (pieceWords_flatMap s)

/-- A control character is no surrogate, so it is decoded by itself. -/
theorem decode?_quoting_cons (c : Char) (ps : List Piece) :
    Piece.decode? (.quoting c :: ps) = (Piece.decode? ps).map (c :: ·) := by
  unfold Piece.quoting
  split_ifs with h
  · have hhigh : isHighSurrogate c.toNat = false := by simp [isHighSurrogate]; omega
    have hlow : isLowSurrogate c.toNat = false := by simp [isLowSurrogate]; omega
    rcases ps with - | ⟨p | p, ps⟩ <;> simp [Piece.decode?, hhigh, hlow]
  · rfl

@[simp] theorem text?_quoting (s : String) : Piece.text? (s.toList.map .quoting) = some s := by
  have hdecode (s : List Char) : Piece.decode? (s.map .quoting) = some s := by
    induction s with
    | nil => rfl
    | cons c s ih => rw [List.map_cons, decode?_quoting_cons, ih, Option.map_some]
  rw [Piece.text?, hdecode, Option.map_some, String.ofList_toList]

/-! ### Integers -/

def Number.numeral (n : Number) : Numeral :=
  ((takeNumeral n.print).map Prod.fst).getD ⟨false, [0], none, none⟩

/-- Digits of a number that is not zero start with another digit. -/
theorem whole_toDigits (n : ℕ) : ∃ ds, Whole (Nat.toDigits 10 n) ds ∧ ofDigits 10 ds = n := by
  induction n using Nat.strongRecOn with
  | ind n ih =>
      by_cases hn : n < 10
      · have hdigits : Digits (Nat.toDigits 10 n) [n] := by
          rw [Nat.toDigits_of_lt_base hn]
          exact .cons (digit?_digitChar hn) .nil
        refine ⟨[n], ?_, by simp [ofDigits]⟩
        by_cases hzero : n = 0
        · subst hzero
          exact .zero hdigits
        · exact .run hdigits hzero
      · have hle := Nat.le_of_not_lt hn
        obtain ⟨ds, hwhole, hvalue⟩ := ih (n / 10) (Nat.div_lt_self (by omega) (by decide))
        have hlast : Digits [Nat.digitChar (n % 10)] [n % 10] :=
          .cons (digit?_digitChar (Nat.mod_lt n (by decide))) .nil
        rw [Nat.toDigits_of_base_le (by decide) hle]
        refine ⟨ds ++ [n % 10], ?_, by rw [ofDigits_concat, hvalue, Nat.div_add_mod']⟩
        cases hwhole with
        | zero =>
            simp only [ofDigits, List.foldl_cons, List.foldl_nil] at hvalue
            omega
        | run hdigits hd => exact .run (List.rel_append hdigits hlast) hd

/-- The integers that fit 64 bits, with a sign or without. -/
def FitsNumeral (i : Int) : Prop :=
  -0x8000000000000000 ≤ i ∧ i ≤ maxSignificand

theorem numeral_of_word {n : Number} {m : Numeral} (h : NumberWord n.print m) : n.numeral = m := by
  have hend : Stops isNumberPart [] := by simp [Stops]
  have htake := takeNumeral_of_number h hend
  rw [List.append_nil] at htake
  simp [Number.numeral, htake]

/-- An integer is printed as a numeral, and the numeral denotes it again. -/
theorem numeral_integer {i : Int} (hi : FitsNumeral i) :
    NumberWord (Number.print (.integer i)) (Number.numeral (.integer i)) ∧
      (Number.numeral (.integer i)).value? = some (.integer i) := by
  obtain ⟨ds, hwhole, hvalue⟩ := whole_toDigits i.natAbs
  obtain ⟨hlow, hhigh⟩ := hi
  by_cases hsign : i < 0
  · have hword : NumberWord (Number.print (.integer i)) ⟨true, ds, none, none⟩ := by
      have hnegative := NumberWord.negative hwhole .none .none
      simpa [Number.print, hsign] using hnegative
    have hback : (i.natAbs : Int) = -i := by omega
    have hfits : Word.fitsSigned64 i = true := by
      simp only [Word.fitsSigned64, Bool.and_eq_true, decide_eq_true_eq]
      omega
    rw [numeral_of_word hword]
    refine ⟨hword, ?_⟩
    simp [Numeral.value?, hvalue, hback, hfits, hsign]
  · have hword : NumberWord (Number.print (.integer i)) ⟨false, ds, none, none⟩ := by
      have hpositive := NumberWord.positive hwhole .none .none
      simpa [Number.print, hsign] using hpositive
    have hback : (i.natAbs : Int) = i := by omega
    rw [numeral_of_word hword]
    refine ⟨hword, ?_⟩
    simp [Numeral.value?, hvalue, hback, hhigh]

/-! ### Values -/

namespace Value

mutual

/-- The document that a value is printed as. -/
def document : Value → Document
  | .null => .null
  | .bool b => .bool b
  | .number n => .number n.numeral
  | .text s => .text (s.toList.map .quoting)
  | .array vs => .array (itemDocuments vs)
  | .object ms => .object (memberDocuments ms)

def itemDocuments : List Value → List Document
  | [] => []
  | v :: vs => v.document :: itemDocuments vs

def memberDocuments : List (String × Value) → List (List Piece × Document)
  | [] => []
  | (k, v) :: ms => (k.toList.map .quoting, v.document) :: memberDocuments ms

end

/-- A value whose numbers are integers of 64 bits. -/
inductive Whole : Value → Prop where
  | null : Whole .null
  | bool (b) : Whole (.bool b)
  | integer {i} : FitsNumeral i → Whole (.number (.integer i))
  | text (s) : Whole (.text s)
  | array {vs} : (∀ v ∈ vs, Whole v) → Whole (.array vs)
  | object {ms} : (∀ m ∈ ms, Whole m.2) → Whole (.object ms)

end Value

/-! ### Arrays and objects item by item -/

/-- Spaces, or none. -/
def IsSpaces (s : List Char) : Prop :=
  ∀ c ∈ s, isSpace c = true

theorem isSpaces_nil : IsSpaces [] := by simp [IsSpaces]

theorem isSpaces_newline (depth : ℕ) : IsSpaces (Value.newline depth) := by
  intro c hc
  rcases List.mem_cons.mp hc with rfl | hc
  · rfl
  · rw [List.eq_of_mem_replicate hc]
    rfl

theorem IsSpaces.written {s s' : List Char} {ts : List Lexeme} (hs : IsSpaces s)
    (h : Written s' ts) : Written (s ++ s') ts := by
  induction s with
  | nil => exact h
  | cons c s ih =>
      obtain ⟨hc, hs⟩ := List.forall_mem_cons.mp hs
      exact .space hc (ih hs)

/-- The text of the items behind the first one, with the bracket that ends the array. -/
def EndsArray (s : List Char) (ds : List Document) : Prop :=
  ∃ a, After .items a ds ∧ Written s (a ++ [.closeBracket])

/-- The text of the members behind the first one, with the brace that ends the object. -/
def EndsObject (s : List Char) (ms : List (List Piece × Document)) : Prop :=
  ∃ a, After .members a ms ∧ Written s (a ++ [.closeBrace])

section Parts

variable {gap gap' s r k : List Char} {d : Document} {ds : List Document}
  {ms : List (List Piece × Document)}

theorem endsArray_nil (hgap : IsSpaces gap) : EndsArray (gap ++ [']']) [] :=
  ⟨[], .nothing, hgap.written (.lexeme .closeBracket .nil)⟩

theorem endsObject_nil (hgap : IsSpaces gap) : EndsObject (gap ++ ['\x7d']) [] :=
  ⟨[], .nothing, hgap.written (.lexeme .closeBrace .nil)⟩

/-- An item and what ends its array spell the items from this one on. -/
theorem EndsArray.items (hend : EndsArray r ds) (hs : IsText s d) :
    ∃ ts, Spells ts (.items (d :: ds)) ∧ Written (s ++ r) (ts ++ [.closeBracket]) := by
  obtain ⟨a, ha, hr⟩ := hend
  obtain ⟨ts, hts, hspells⟩ := hs
  refine ⟨ts ++ a, spells_items .nothing hspells ha, ?_⟩
  rw [List.append_assoc]
  exact hts.append hr

theorem EndsArray.cons (hend : EndsArray r ds) (hgap : IsSpaces gap) (hs : IsText s d) :
    EndsArray (',' :: gap ++ s ++ r) (d :: ds) := by
  obtain ⟨ts, hspells, hwritten⟩ := hend.items hs
  refine ⟨.comma :: ts, .some hspells, ?_⟩
  rw [List.append_assoc, List.cons_append]
  exact .lexeme .comma (hgap.written hwritten)

theorem EndsArray.isText (hend : EndsArray r ds) (hgap : IsSpaces gap) (hs : IsText s d) :
    IsText ('[' :: gap ++ s ++ r) (.array (d :: ds)) := by
  obtain ⟨ts, hspells, hwritten⟩ := hend.items hs
  refine ⟨_, ?_, .array hspells⟩
  rw [List.append_assoc, List.cons_append]
  exact .lexeme .openBracket (hgap.written hwritten)

theorem EndsObject.members (hend : EndsObject r ms) (hgap : IsSpaces gap) (hs : IsText s d) :
    ∃ ts, Spells ts (.members ((k.map .quoting, d) :: ms)) ∧
      Written (quote k ++ ':' :: (gap ++ (s ++ r))) (ts ++ [.closeBrace]) := by
  obtain ⟨a, ha, hr⟩ := hend
  obtain ⟨ts, hts, hspells⟩ := hs
  refine ⟨_, spells_members .nothing hspells ha, ?_⟩
  rw [List.nil_append, List.cons_append, List.cons_append, List.append_assoc]
  exact .lexeme (lexemeWord_quote k) (.lexeme .colon (hgap.written (hts.append hr)))

theorem EndsObject.cons (hend : EndsObject r ms) (hgap : IsSpaces gap) (hgap' : IsSpaces gap')
    (hs : IsText s d) : EndsObject (',' :: gap ++ quote k ++ ':' :: gap' ++ s ++ r)
      ((k.map .quoting, d) :: ms) := by
  obtain ⟨ts, hspells, hwritten⟩ := hend.members (k := k) hgap' hs
  refine ⟨.comma :: ts, .some hspells, ?_⟩
  simp only [List.append_assoc, List.cons_append]
  exact .lexeme .comma (hgap.written hwritten)

theorem EndsObject.isText (hend : EndsObject r ms) (hgap : IsSpaces gap) (hgap' : IsSpaces gap')
    (hs : IsText s d) : IsText ('\x7b' :: gap ++ quote k ++ ':' :: gap' ++ s ++ r)
      (.object ((k.map .quoting, d) :: ms)) := by
  obtain ⟨ts, hspells, hwritten⟩ := hend.members (k := k) hgap' hs
  refine ⟨_, ?_, .object hspells⟩
  simp only [List.append_assoc, List.cons_append]
  exact .lexeme .openBrace (hgap.written hwritten)

/-- Items that are written one after the other, each behind a comma. -/
theorem endsArray_of_tail {text : Value → List Char} {tail : List Value → List Char}
    (hgap : IsSpaces gap) (hgap' : IsSpaces gap') (hnil : tail [] = gap' ++ [']'])
    (hcons : ∀ v vs, tail (v :: vs) = ',' :: gap ++ text v ++ tail vs) {vs : List Value}
    (hvs : ∀ v ∈ vs, IsText (text v) v.document) :
    EndsArray (tail vs) (Value.itemDocuments vs) := by
  induction vs with
  | nil =>
      rw [hnil]
      exact endsArray_nil hgap'
  | cons v vs ih =>
      obtain ⟨hv, hvs⟩ := List.forall_mem_cons.mp hvs
      rw [hcons]
      exact (ih hvs).cons hgap hv

/-- Members that are written one after the other, each behind a comma. -/
theorem endsObject_of_tail {gap'' : List Char} {text : Value → List Char}
    {tail : List (String × Value) → List Char} (hgap : IsSpaces gap) (hgap' : IsSpaces gap')
    (hgap'' : IsSpaces gap'') (hnil : tail [] = gap'' ++ ['\x7d'])
    (hcons : ∀ k v ms, tail ((k, v) :: ms) =
      ',' :: gap ++ quote k.toList ++ ':' :: gap' ++ text v ++ tail ms)
    {ms : List (String × Value)} (hms : ∀ m ∈ ms, IsText (text m.2) m.2.document) :
    EndsObject (tail ms) (Value.memberDocuments ms) := by
  induction ms with
  | nil =>
      rw [hnil]
      exact endsObject_nil hgap''
  | cons m ms ih =>
      obtain ⟨hm, hms⟩ := List.forall_mem_cons.mp hms
      rw [hcons]
      exact (ih hms).cons hgap hgap' hm

end Parts

theorem isText_of_word {w : List Char} {t : Lexeme} {d : Document} (hw : LexemeWord w t)
    (hspells : Spells [t] (.value d)) : IsText w d := by
  have hwritten := Written.lexeme hw .nil
  rw [List.append_nil] at hwritten
  exact ⟨[t], hwritten, hspells⟩

namespace Value

/-- The compact text of a value spells its document. -/
theorem Whole.isText_compact {v : Value} (h : v.Whole) : IsText v.compact v.document := by
  induction h with
  | null => exact isText_of_word .null .null
  | bool b => cases b <;> exact isText_of_word (by constructor) (.bool _)
  | integer hi => exact isText_of_word (.number (numeral_integer hi).1) (.number _)
  | text s => exact isText_of_word (lexemeWord_quote s.toList) (.text _)
  | @array vs _ ih =>
      cases vs with
      | nil => exact ⟨_, .lexeme .openBracket (.lexeme .closeBracket .nil), .emptyArray⟩
      | cons v vs =>
          obtain ⟨hv, hvs⟩ := List.forall_mem_cons.mp ih
          have hend : EndsArray (compactItems vs) (itemDocuments vs) :=
            endsArray_of_tail isSpaces_nil isSpaces_nil rfl (fun _ _ => rfl) hvs
          exact hend.isText isSpaces_nil hv
  | @object ms _ ih =>
      cases ms with
      | nil => exact ⟨_, .lexeme .openBrace (.lexeme .closeBrace .nil), .emptyObject⟩
      | cons m ms =>
          obtain ⟨hm, hms⟩ := List.forall_mem_cons.mp ih
          have hend : EndsObject (compactMembers ms) (memberDocuments ms) :=
            endsObject_of_tail isSpaces_nil isSpaces_nil isSpaces_nil rfl
              (fun _ _ _ => by simp [compactMembers]) hms
          have hall := hend.isText (k := m.1.toList) isSpaces_nil isSpaces_nil hm
          simpa [compact, document, memberDocuments] using hall

theorem Whole.isText_pretty {v : Value} (h : v.Whole) (depth : ℕ) :
    IsText (v.pretty depth) v.document := by
  induction h generalizing depth with
  | null => exact Whole.null.isText_compact
  | bool b => exact (Whole.bool b).isText_compact
  | integer hi => exact (Whole.integer hi).isText_compact
  | text s => exact (Whole.text s).isText_compact
  | @array vs _ ih =>
      have hline := isSpaces_newline (depth + 1)
      cases vs with
      | nil => exact ⟨_, .lexeme .openBracket (.lexeme .closeBracket .nil), .emptyArray⟩
      | cons v vs =>
          obtain ⟨hv, hvs⟩ := List.forall_mem_cons.mp ih
          have hend : EndsArray (prettyItems depth vs) (itemDocuments vs) :=
            endsArray_of_tail hline (isSpaces_newline depth) rfl (fun _ _ => rfl)
              fun v hmem => hvs v hmem (depth + 1)
          exact hend.isText hline (hv (depth + 1))
  | @object ms _ ih =>
      have hline := isSpaces_newline (depth + 1)
      have hspace : IsSpaces [' '] := by simp [IsSpaces, isSpace]
      cases ms with
      | nil => exact ⟨_, .lexeme .openBrace (.lexeme .closeBrace .nil), .emptyObject⟩
      | cons m ms =>
          obtain ⟨hm, hms⟩ := List.forall_mem_cons.mp ih
          have hend : EndsObject (prettyMembers depth ms) (memberDocuments ms) :=
            endsObject_of_tail hline hspace (isSpaces_newline depth) rfl
              (fun _ _ _ => by simp [prettyMembers]) fun m hmem => hms m hmem (depth + 1)
          have hall := hend.isText (k := m.1.toList) hline hspace (hm (depth + 1))
          simpa [pretty, document, memberDocuments] using hall

/-- The compact text is read as the document of the value. -/
theorem Whole.ofText?_compactText {v : Value} (h : v.Whole) :
    Document.ofText? v.compactText = some v.document := by
  rw [Document.ofText?, compactText, String.toList_ofList]
  exact Document.ofChars?_iff.mpr h.isText_compact

/-- The pretty text is read as the document of the value, also on a line of its own. -/
theorem Whole.ofText?_prettyText {v : Value} (h : v.Whole) :
    Document.ofText? v.prettyText = some v.document ∧
      Document.ofText? (v.prettyText ++ "\n") = some v.document := by
  obtain ⟨ts, hwritten, hspells⟩ := h.isText_pretty 0
  have hline : Written ['\n'] [] := .space rfl .nil
  have hmore := hwritten.append hline
  rw [List.append_nil] at hmore
  simp only [Document.ofText?, prettyText, String.toList_append, String.toList_ofList]
  exact ⟨Document.ofChars?_iff.mpr ⟨ts, hwritten, hspells⟩,
    Document.ofChars?_iff.mpr ⟨ts, hmore, hspells⟩⟩

end Value

end EpisodeGuide.Json
