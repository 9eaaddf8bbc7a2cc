import EpisodeGuide.Text.Digit

/-!
Lexical units of JSON texts. Reading keeps what is written: digits are not yet a number and
hexadecimal units are not yet characters, so nothing is refused for its size or for a surrogate
without its partner.
-/

namespace EpisodeGuide.Json

open EpisodeGuide.Text

/-- One element of a quoted text: a character, plain or in a short escape, or a hexadecimal 16-bit
unit. -/
inductive Piece where
  | char (c : Char)
  | code (unit : Nat)
  deriving DecidableEq, Repr

structure Numeral where
  negative : Bool
  whole : List Nat
  fraction : Option (List Nat)
  exponent : Option Int
  deriving DecidableEq, Repr

inductive Lexeme where
  | openBrace
  | closeBrace
  | openBracket
  | closeBracket
  | colon
  | comma
  | null
  | bool (b : Bool)
  | number (n : Numeral)
  | text (pieces : List Piece)
  deriving DecidableEq, Repr

def isSpace (c : Char) : Bool :=
  c == ' ' || c == '\t' || c == '\n' || c == '\r'

/-- The characters after a backslash that stand for a character by themselves. -/
def shortEscape? : Char → Option Char
  | '"' => some '"'
  | '\\' => some '\\'
  | '/' => some '/'
  | 'b' => some '\x08'
  | 'f' => some '\x0c'
  | 'n' => some '\n'
  | 'r' => some '\r'
  | 't' => some '\t'
  | _ => none

def unit? (a b c d : Char) : Option Nat :=
  ([a, b, c, d].mapM hexDigit?).map (ofDigits 16)

/-- Reads a quoted text after its opening quote. Control characters must be escaped. -/
def takePieces : List Char → Option (List Piece × List Char)
  | [] => none
  | '"' :: r => some ([], r)
  | '\\' :: 'u' :: a :: b :: c :: d :: r =>
    match unit? a b c d, takePieces r with
    | some u, some (ps, rest) => some (.code u :: ps, rest)
    | _, _ => none
  | '\\' :: e :: r =>
    match shortEscape? e, takePieces r with
    | some c, some (ps, rest) => some (.char c :: ps, rest)
    | _, _ => none
  | c :: r =>
    if c.toNat < 0x20 || c == '\\' then none
    else
      match takePieces r with
      | some (ps, rest) => some (.char c :: ps, rest)
      | none => none

/-- Reads the digits before the point: a zero alone, or a run that starts otherwise. -/
def takeWhole (s : List Char) : Option (List Nat × List Char) :=
  match takeDigits s with
  | ([], _) => none
  | (0 :: _ :: _, _) => none
  | (digits, rest) => some (digits, rest)

def takeFraction : List Char → Option (Option (List Nat) × List Char)
  | '.' :: r =>
    match takeDigits r with
    | ([], _) => none
    | (digits, rest) => some (some digits, rest)
  | s => some (none, s)

def takeSign : List Char → Bool × List Char
  | '+' :: r => (false, r)
  | '-' :: r => (true, r)
  | s => (false, s)

def takeExponent (s : List Char) : Option (Option Int × List Char) :=
  match s with
  | [] => some (none, [])
  | c :: r =>
    if c == 'e' || c == 'E' then
      let (negative, r) := takeSign r
      match takeDigits r with
      | ([], _) => none
      | (digits, rest) =>
        let n : Int := ofDigits 10 digits
        some (some (if negative then -n else n), rest)
    else some (none, s)

def takeUnsigned (negative : Bool) (s : List Char) : Option (Numeral × List Char) := do
  let (whole, s) ← takeWhole s
  let (fraction, s) ← takeFraction s
  let (exponent, s) ← takeExponent s
  return (⟨negative, whole, fraction, exponent⟩, s)

def takeNumeral : List Char → Option (Numeral × List Char)
  | '-' :: r => takeUnsigned true r
  | s => takeUnsigned false s

/-- Reads the lexeme at the start of a text that does not start with a space. -/
def takeLexeme : List Char → Option (Lexeme × List Char)
  | '{' :: r => some (.openBrace, r)
  | '}' :: r => some (.closeBrace, r)
  | '[' :: r => some (.openBracket, r)
  | ']' :: r => some (.closeBracket, r)
  | ':' :: r => some (.colon, r)
  | ',' :: r => some (.comma, r)
  | '"' :: r => (takePieces r).map (fun (ps, rest) => (.text ps, rest))
  | 'n' :: 'u' :: 'l' :: 'l' :: r => some (.null, r)
  | 't' :: 'r' :: 'u' :: 'e' :: r => some (.bool true, r)
  | 'f' :: 'a' :: 'l' :: 's' :: 'e' :: r => some (.bool false, r)
  | s => (takeNumeral s).map (fun (n, rest) => (.number n, rest))

theorem takePieces_length {s rest : List Char} {ps : List Piece}
    (h : takePieces s = some (ps, rest)) : rest.length < s.length := by
  fun_induction takePieces s generalizing ps rest
  all_goals simp only [Option.some.injEq, Prod.mk.injEq, reduceCtorEq] at h
  all_goals obtain ⟨-, rfl⟩ := h
  all_goals simp_all only [List.length_cons, Option.some.injEq, Prod.mk.injEq, and_imp, forall_eq']
  all_goals omega

theorem takeWhole_length {s rest : List Char} {ds : List Nat}
    (h : takeWhole s = some (ds, rest)) : rest.length < s.length := by
  have hlt := takeDigits_length_lt (s := s)
  unfold takeWhole at h
  split at h
  · simp at h
  · simp at h
  · next digits r hne _ hs =>
    simp only [Option.some.injEq, Prod.mk.injEq] at h
    obtain ⟨-, rfl⟩ := h
    simp only [hs] at hlt
    exact hlt hne

theorem takeFraction_length {s rest : List Char} {f : Option (List Nat)}
    (h : takeFraction s = some (f, rest)) : rest.length ≤ s.length := by
  unfold takeFraction at h
  split at h
  · next r =>
    have := takeDigits_length r
    split at h <;> grind
  · grind

theorem takeSign_length (s : List Char) : (takeSign s).2.length ≤ s.length := by
  unfold takeSign; split <;> simp

theorem takeExponent_length {s rest : List Char} {e : Option Int}
    (h : takeExponent s = some (e, rest)) : rest.length ≤ s.length := by
  unfold takeExponent at h
  split at h
  · grind
  · next c r =>
    have h1 := takeSign_length r
    have h2 := takeDigits_length (takeSign r).2
    split at h
    · split at h
      grind
    · grind

theorem takeUnsigned_length {b : Bool} {s rest : List Char} {n : Numeral}
    (h : takeUnsigned b s = some (n, rest)) : rest.length < s.length := by
  simp only [takeUnsigned, Option.bind_eq_bind, Option.bind_eq_some_iff, Option.pure_def,
    Option.some.injEq, Prod.mk.injEq, Prod.exists] at h
  obtain ⟨_, _, hw, _, _, hf, _, _, he, -, rfl⟩ := h
  have h1 := takeWhole_length hw
  have h2 := takeFraction_length hf
  have h3 := takeExponent_length he
  omega

theorem takeNumeral_length {s rest : List Char} {n : Numeral}
    (h : takeNumeral s = some (n, rest)) : rest.length < s.length := by
  unfold takeNumeral at h
  split at h
  · have := takeUnsigned_length h
    simp only [List.length_cons]; omega
  · exact takeUnsigned_length h

theorem takeLexeme_length {s rest : List Char} {t : Lexeme}
    (h : takeLexeme s = some (t, rest)) : rest.length < s.length := by
  unfold takeLexeme at h
  split at h
  case h_7 r =>
    obtain ⟨p, hp, he⟩ := Option.map_eq_some_iff.1 h
    have := takePieces_length (show takePieces r = some (p.1, p.2) from hp)
    simp only [Prod.mk.injEq] at he
    simp only [← he.2, List.length_cons]; omega
  case h_11 =>
    obtain ⟨p, hp, he⟩ := Option.map_eq_some_iff.1 h
    have := takeNumeral_length (show takeNumeral _ = some (p.1, p.2) from hp)
    simp only [Prod.mk.injEq] at he
    simpa [← he.2] using this
  all_goals
    simp only [Option.some.injEq, Prod.mk.injEq] at h
    simp only [← h.2, List.length_cons]; omega

def lexemes? (s : List Char) : Option (List Lexeme) :=
  match s with
  | [] => some []
  | c :: r =>
    if isSpace c then lexemes? r
    else
      match h : takeLexeme (c :: r) with
      | none => none
      | some (t, rest) =>
        have := takeLexeme_length h
        (lexemes? rest).map (t :: ·)
termination_by s.length
decreasing_by
  · exact Nat.lt_succ_self r.length
  · exact this

end EpisodeGuide.Json
