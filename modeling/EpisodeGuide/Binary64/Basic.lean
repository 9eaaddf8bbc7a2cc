/-!
Binary floating-point numbers of double width, held as the exact value that they stand for. A
quotient of naturals is rounded to the nearest such number, a tie to the even mantissa, and is
refused when it exceeds the largest one.
-/

namespace EpisodeGuide

/-- The magnitude `mantissa * 2 ^ exponent`. -/
structure Magnitude where
  mantissa : Nat
  exponent : Int
  deriving DecidableEq, Repr

/-- A finite number: a sign and a magnitude. Zero has both signs. -/
structure Binary64 where
  negative : Bool
  magnitude : Magnitude
  deriving DecidableEq, Repr

namespace Magnitude

def precision : Nat := 53

/-- Exponent of the smallest step between two magnitudes. -/
def minExponent : Int := -1074

def maxExponent : Int := 971

def toRatio (m : Magnitude) : Nat × Nat :=
  (m.mantissa * Nat.pow 2 m.exponent.toNat, Nat.pow 2 (-m.exponent).toNat)

/-- The nearest multiple of the step `2 ^ e` to `num / den`, counted in steps; a tie goes to the
even count. -/
def roundAt (num den : Nat) (e : Int) : Nat :=
  let n := num * Nat.pow 2 (-e).toNat
  let d := den * Nat.pow 2 e.toNat
  let q := n / d
  let r := n % d
  if 2 * r > d || (2 * r == d && q % 2 == 1) then q + 1 else q

/-- The exponent of the step used near `num / den`: a mantissa fills its width unless the number is
too small for that. -/
def stepExponent (num den : Nat) : Int :=
  let guess : Int := (num.log2 : Int) - (den.log2 : Int) - precision
  let fits := num * Nat.pow 2 (-(guess + precision)).toNat <
    den * Nat.pow 2 (guess + precision).toNat
  max minExponent (if fits then guess else guess + 1)

/-- The magnitude nearest to `num / den`, or nothing when that lies above the largest one. -/
def ofRatio? (num den : Nat) : Option Magnitude :=
  let e := stepExponent num den
  let q := roundAt num den e
  let m : Magnitude :=
    if q == Nat.pow 2 precision then ⟨Nat.pow 2 (precision - 1), e + 1⟩ else ⟨q, e⟩
  if m.exponent ≤ maxExponent then some m else none

def ofNat? (n : Nat) : Option Magnitude :=
  ofRatio? n 1

def mul? (a b : Magnitude) : Option Magnitude :=
  ofRatio? (a.toRatio.1 * b.toRatio.1) (a.toRatio.2 * b.toRatio.2)

def div? (a b : Magnitude) : Option Magnitude :=
  ofRatio? (a.toRatio.1 * b.toRatio.2) (a.toRatio.2 * b.toRatio.1)

def toNat? (m : Magnitude) : Option Nat :=
  if m.mantissa % Nat.pow 2 (-m.exponent).toNat == 0 then
    some (m.mantissa * Nat.pow 2 m.exponent.toNat / Nat.pow 2 (-m.exponent).toNat)
  else
    none

def tenLimit : Nat := 308

def tenPower? (e : Nat) : Option Magnitude :=
  ofNat? (Nat.pow 10 e)

/-- Divides by the largest power of ten, `steps` times or until nothing is left. -/
def shrink : Nat → Magnitude → Option Magnitude
  | 0, m => some m
  | steps + 1, m =>
    if m.mantissa == 0 then some m
    else ((tenPower? tenLimit).bind m.div?).bind (shrink steps)

/-- `significand * 10 ^ e`, or nothing when that lies above the largest magnitude. The significand
and every power of ten are rounded for themselves, and a far negative exponent is taken in several
steps. -/
def scaleTen? (significand : Nat) (e : Int) : Option Magnitude :=
  (ofNat? significand).bind fun m =>
    if e < 0 then
      let steps := (e.natAbs - 1) / tenLimit
      (shrink steps m).bind fun small =>
        if small.mantissa == 0 then some small
        else (tenPower? (e.natAbs - steps * tenLimit)).bind small.div?
    else if e.natAbs ≤ tenLimit then (tenPower? e.natAbs).bind m.mul?
    else if m.mantissa == 0 then some m
    else none

end Magnitude

namespace Binary64

def isZero (x : Binary64) : Bool :=
  x.magnitude.mantissa == 0

def ofInt? (i : Int) : Option Binary64 :=
  (Magnitude.ofNat? i.natAbs).map (⟨decide (i < 0), ·⟩)

/-- The natural number that `x` equals, if it is one. Negative zero equals zero. -/
def toNat? (x : Binary64) : Option Nat :=
  if x.negative && !x.isZero then none else x.magnitude.toNat?

def toInt? (x : Binary64) : Option Int :=
  x.magnitude.toNat?.map (fun n => if x.negative then -(n : Int) else (n : Int))

def compareInt (i : Int) (x : Binary64) : Ordering :=
  let (num, den) := x.magnitude.toRatio
  let value : Int := if x.negative then -(num : Int) else num
  compare (i * den) value

/-- Compares two numbers exactly; both zeros are equal. -/
def compareExact (x y : Binary64) : Ordering :=
  let (a, b) := x.magnitude.toRatio
  let (c, d) := y.magnitude.toRatio
  let left : Int := if x.negative then -(a : Int) else a
  let right : Int := if y.negative then -(c : Int) else c
  compare (left * d) (right * b)

end Binary64

end EpisodeGuide
