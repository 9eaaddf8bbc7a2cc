import EpisodeGuide.Binary64.Basic
import EpisodeGuide.Text.Digit
import EpisodeGuide.Word

/-!
Numbers of TOML. Underscores may stand between digits. Integers fit 64 bits with sign and may be
written in the bases two, eight and sixteen; a real number must not be too large.
-/

namespace EpisodeGuide.Toml

open Text

/-- The digits that follow a digit; an underscore counts only before a digit. -/
def takeMoreDigits (value? : Char → Option Nat) : List Char → List Nat × List Char
  | '_' :: c :: r =>
    match value? c with
    | some d => (takeMoreDigits value? r).map (d :: ·) id
    | none => ([], '_' :: c :: r)
  | c :: r =>
    match value? c with
    | some d => (takeMoreDigits value? r).map (d :: ·) id
    | none => ([], c :: r)
  | [] => ([], [])

/-- Reads digits, the first of them a zero or not. -/
def takeSpacedDigits (value? : Char → Option Nat) : List Char → Option (List Nat × List Char)
  | [] => none
  | c :: r =>
    (value? c).map fun d => (takeMoreDigits value? r).map (d :: ·) id

def takeWhole : List Char → Option (List Nat × List Char)
  | '0' :: r => some ([0], r)
  | s => takeSpacedDigits digit? s

def takeSign : List Char → Bool × List Char
  | '+' :: r => (false, r)
  | '-' :: r => (true, r)
  | s => (false, s)

def narrow? (i : Int) : Option Int :=
  if Word.fitsSigned64 i then some i else none

def smallDigit? (base : Nat) (c : Char) : Option Nat :=
  (digit? c).filter (· < base)

/-- Reads an integer behind the mark of its base. -/
def takeBased (base : Nat) (value? : Char → Option Nat) (s : List Char) :
    Option (Int × List Char) :=
  (takeSpacedDigits value? s).bind fun (digits, rest) =>
    (narrow? (ofDigits base digits)).map (·, rest)

def takeInteger : List Char → Option (Int × List Char)
  | '0' :: 'x' :: r => takeBased 16 hexDigit? r
  | '0' :: 'o' :: r => takeBased 8 (smallDigit? 8) r
  | '0' :: 'b' :: r => takeBased 2 (smallDigit? 2) r
  | s =>
    let (negative, s) := takeSign s
    (takeWhole s).bind fun (digits, rest) =>
      let n : Int := ofDigits 10 digits
      (narrow? (if negative then -n else n)).map (·, rest)

/-- A real number: a finite one as written, an infinite one, or none at all. -/
inductive RealNumber where
  | decimal (negative : Bool) (digits : List Nat) (exponent : Int)
  | infinite (negative : Bool)
  | undefined
  deriving DecidableEq, Repr

def isFinite (digits : List Nat) (exponent : Int) : Bool :=
  let digits := digits.dropWhile (· == 0)
  let point : Int := digits.length + exponent
  if digits.isEmpty || point < 300 then true
  else if point > 400 then false
  else
    (Magnitude.ofRatio? (ofDigits 10 digits * Nat.pow 10 exponent.toNat)
      (Nat.pow 10 (-exponent).toNat)).isSome

def takeFraction : List Char → Option (List Nat × List Char)
  | '.' :: r => takeSpacedDigits digit? r
  | _ => none

def takeExponent : List Char → Option (Int × List Char)
  | [] => none
  | c :: r =>
    if c == 'e' || c == 'E' then
      let (negative, r) := takeSign r
      (takeSpacedDigits digit? r).map fun (digits, rest) =>
        let n : Int := ofDigits 10 digits
        (if negative then -n else n, rest)
    else none

/-- Reads what makes a number real: a fraction, an exponent, or both in this order. -/
def takeRealPart (s : List Char) : Option ((List Nat × Int) × List Char) :=
  match takeFraction s with
  | some (fraction, rest) =>
    match takeExponent rest with
    | some (e, rest) => some ((fraction, e), rest)
    | none => some ((fraction, 0), rest)
  | none => (takeExponent s).map fun (e, rest) => (([], e), rest)

/-- Reads a real number. Only numbers below zero may be too large. -/
def takeReal (s : List Char) : Option (RealNumber × List Char) :=
  let (negative, s) := takeSign s
  match s with
  | 'i' :: 'n' :: 'f' :: r => some (.infinite negative, r)
  | 'n' :: 'a' :: 'n' :: r => some (.undefined, r)
  | _ =>
    (takeWhole s).bind fun (whole, s) =>
      (takeRealPart s).bind fun ((fraction, e), rest) =>
        let digits := whole ++ fraction
        let e : Int := e - fraction.length
        if isFinite digits e then some (.decimal negative digits e, rest)
        else if negative then some (.infinite true, rest)
        else none

end EpisodeGuide.Toml
