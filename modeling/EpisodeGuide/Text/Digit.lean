/-!
Digits of texts in the bases ten and sixteen. A run of digits denotes a natural number, the first
digit counting most.
-/

namespace EpisodeGuide.Text

def digit? (c : Char) : Option Nat :=
  if '0' ≤ c ∧ c ≤ '9' then some (c.toNat - '0'.toNat) else none

def hexDigit? (c : Char) : Option Nat :=
  if '0' ≤ c ∧ c ≤ '9' then some (c.toNat - '0'.toNat)
  else if 'a' ≤ c ∧ c ≤ 'f' then some (c.toNat - 'a'.toNat + 10)
  else if 'A' ≤ c ∧ c ≤ 'F' then some (c.toNat - 'A'.toNat + 10)
  else none

def isDigit (c : Char) : Bool :=
  (digit? c).isSome

/-- The number that a run of digits denotes in a base. -/
def ofDigits (base : Nat) (digits : List Nat) : Nat :=
  digits.foldl (fun n d => n * base + d) 0

/-- The decimal number that `s` spells, without sign; nothing for the empty text. -/
def natural? (s : List Char) : Option Nat :=
  if s.isEmpty then none else (s.mapM digit?).map (ofDigits 10)

def takeDigits (s : List Char) : List Nat × List Char :=
  ((s.takeWhile isDigit).filterMap digit?, s.dropWhile isDigit)

def upperHexDigit (n : Nat) : Char :=
  if n < 10 then Char.ofNat (n + '0'.toNat) else Char.ofNat (n - 10 + 'A'.toNat)

def lowerHexDigit (n : Nat) : Char :=
  if n < 10 then Char.ofNat (n + '0'.toNat) else Char.ofNat (n - 10 + 'a'.toNat)

def lowerHex (n : Nat) : List Char :=
  Nat.toDigits 16 n

theorem takeDigits_length (s : List Char) : (takeDigits s).2.length ≤ s.length :=
  (List.dropWhile_suffix isDigit).length_le

theorem takeDigits_length_lt {s : List Char} (h : (takeDigits s).1 ≠ []) :
    (takeDigits s).2.length < s.length := by
  cases s with
  | nil => simp [takeDigits] at h
  | cons c r =>
    cases hc : isDigit c with
    | false => simp [takeDigits, hc] at h
    | true =>
      have := takeDigits_length r
      simp only [takeDigits, List.dropWhile_cons, hc, if_true, List.length_cons] at this ⊢
      omega

end EpisodeGuide.Text
