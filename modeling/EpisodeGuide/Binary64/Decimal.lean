import EpisodeGuide.Binary64.Basic

/-!
Decimal texts of double-width numbers. The shortest text holds the fewest digits that read back as
the number; the significant text rounds to a fixed count of digits, a half going up. A layout says
where positional notation ends and how an exponent is written.
-/

namespace EpisodeGuide

/-- The decimal number `0.d₁d₂… * 10 ^ point`, without trailing zeros. -/
structure Decimal where
  digits : List Nat
  point : Int
  deriving DecidableEq, Repr

namespace Decimal

def dropTrailingZeros (digits : List Nat) : List Nat :=
  (digits.reverse.dropWhile (· == 0)).reverse

def digitsOf (n : Nat) : List Nat :=
  (Nat.toDigits 10 n).map (fun c => c.toNat - '0'.toNat)

def ofScaled (n : Nat) (e : Int) : Decimal :=
  if n == 0 then ⟨[], 0⟩
  else
    let digits := digitsOf n
    ⟨dropTrailingZeros digits, digits.length + e⟩

/-- The place of the decimal point: the least `p` with `num / den < 10 ^ p`. The logarithms give it
up to one place. -/
def pointOf (num den : Nat) : Int :=
  let whole := num / den
  if whole > 0 then (digitsOf whole).length
  else
    let places := (den.log2 - num.log2) * 30103 / 100000
    let below (n : Nat) : Bool := num * Nat.pow 10 n < den
    if below (places + 1) then -((places + 1 : Nat) : Int)
    else if below places then -(places : Int)
    else 1 - (places : Int)

def scaled (num den : Nat) (k : Int) : Nat × Nat :=
  (num * Nat.pow 10 k.toNat, den * Nat.pow 10 (-k).toNat)

/-- `num / den` to `count` significant digits, a half going up. -/
def significant (num den count : Nat) : Decimal :=
  if num == 0 then ⟨[], 0⟩
  else
    let k : Int := count - pointOf num den
    let (n, d) := scaled num den k
    ofScaled ((2 * n + d) / (2 * d)) (-k)

def readsBack (m : Magnitude) (n : Nat) (e : Int) : Bool :=
  Magnitude.ofRatio? (n * Nat.pow 10 e.toNat) (Nat.pow 10 (-e).toNat) == some m

/-- The decimal with `count` digits nearest to `m` among those that read back as `m`. -/
def withDigits? (m : Magnitude) (count : Nat) : Option Decimal :=
  let (num, den) := m.toRatio
  let k : Int := count - pointOf num den
  let (n, d) := scaled num den k
  let below := n / d
  let candidates := if 2 * (n % d) < d then [below, below + 1] else [below + 1, below]
  (candidates.find? (readsBack m · (-k))).map (ofScaled · (-k))

/-- The decimal with the fewest digits that reads back as `m`; seventeen digits always suffice. -/
def shortest (m : Magnitude) : Decimal :=
  if m.mantissa == 0 then ⟨[], 0⟩
  else
    ((List.range 17).findSome? (fun i => withDigits? m (i + 1))).getD
      (significant m.toRatio.1 m.toRatio.2 17)

structure Layout where
  /-- Positional notation is used when `low < point` and `point ≤ high`. -/
  low : Int
  high : Int
  /-- A fraction of one zero is written where there is none, also before an exponent. -/
  fractionInScientific : Bool
  plusSign : Bool
  exponentWidth : Nat

def digitText (digits : List Nat) : List Char :=
  digits.map (fun d => Char.ofNat (d + '0'.toNat))

/-- The digits with the point after the first `point` places, at least one digit on either side. -/
def positional (x : Decimal) : List Char :=
  if x.point ≤ 0 then
    '0' :: '.' :: (List.replicate (-x.point).toNat '0' ++
      if x.digits.isEmpty then ['0'] else digitText x.digits)
  else
    let places := x.point.toNat
    let whole := x.digits.take places ++ List.replicate (places - x.digits.length) 0
    let fraction := x.digits.drop places
    digitText whole ++ '.' :: (if fraction.isEmpty then ['0'] else digitText fraction)

def exponentText (layout : Layout) (e : Int) : List Char :=
  let digits := digitText (digitsOf e.natAbs)
  let sign := if e < 0 then ['-'] else if layout.plusSign then ['+'] else []
  sign ++ List.replicate (layout.exponentWidth - digits.length) '0' ++ digits

def scientific (layout : Layout) (x : Decimal) : List Char :=
  match x.digits with
  | [] => ['0']
  | d :: rest =>
    let fraction :=
      if rest.isEmpty then (if layout.fractionInScientific then ['.', '0'] else [])
      else '.' :: digitText rest
    digitText [d] ++ fraction ++ 'e' :: exponentText layout (x.point - 1)

def layOut (layout : Layout) (x : Decimal) : List Char :=
  if x.digits.isEmpty || (decide (layout.low < x.point) && decide (x.point ≤ layout.high)) then
    positional x
  else scientific layout x

/-- Fewest digits: positional from 0.0001 up to 10 ^ 16, an exponent bare of sign and padding. -/
def plain : Layout := ⟨-4, 16, false, false, 1⟩

/-- Fifteen digits: positional from 0.0001 up to 10 ^ 15, an exponent signed and of two digits at
least. -/
def column : Layout := ⟨-4, 15, true, true, 2⟩

/-- Fewest digits as data formats write them: positional from 0.00001 up to 10 ^ 16. -/
def exchange : Layout := ⟨-5, 16, false, false, 1⟩

end Decimal

namespace Binary64

def signText (negative : Bool) : List Char :=
  if negative then ['-'] else []

def shortestText (layout : Decimal.Layout) (x : Binary64) : String :=
  String.ofList (signText x.negative ++ Decimal.layOut layout (Decimal.shortest x.magnitude))

def columnText (x : Binary64) : String :=
  let (num, den) := x.magnitude.toRatio
  String.ofList (signText (x.negative && !x.isZero) ++
    Decimal.layOut Decimal.column (Decimal.significant num den 15))

end Binary64

end EpisodeGuide
