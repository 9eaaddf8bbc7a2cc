/-!
Punycode: texts of any characters in letters, digits and hyphens. The ASCII characters come first as
they are; every other character is a number that says how far to count through all code points and
places to find it. Texts of any length are written and read, so no number is too large by itself.
-/

namespace EpisodeGuide.Url.Punycode

def digitChar (d : Nat) : Char :=
  if d < 26 then Char.ofNat (d + 'a'.toNat) else Char.ofNat (d - 26 + '0'.toNat)

/-- The value of a digit, in either case. -/
def digitValue? (c : Char) : Option Nat :=
  if 'a' ≤ c ∧ c ≤ 'z' then some (c.toNat - 'a'.toNat)
  else if 'A' ≤ c ∧ c ≤ 'Z' then some (c.toNat - 'A'.toNat)
  else if '0' ≤ c ∧ c ≤ '9' then some (c.toNat - '0'.toNat + 26)
  else none

def base : Nat := 36

def firstBias : Nat := 72

/-- The least code point that is counted. -/
def firstCodePoint : Nat := 0x80

/-- The value below which a digit is the last one, at a position that is counted in steps of the
base. -/
def threshold (position bias : Nat) : Nat :=
  if position ≤ bias then 1 else if bias + 26 ≤ position then 26 else position - bias

theorem threshold_pos (position bias : Nat) : 1 ≤ threshold position bias := by
  unfold threshold
  split
  · omega
  · split <;> omega

/-- Divides until the rest is small; also how often, in steps of the base. -/
def scaleDown (delta k : Nat) : Nat × Nat :=
  if 455 < delta then scaleDown (delta / 35) (k + base) else (delta, k)
termination_by delta
decreasing_by exact Nat.div_lt_self (by omega) (by omega)

/-- The bias for the number after `delta`, when `count` characters are known. -/
def adapt (delta count : Nat) (first : Bool) : Nat :=
  let delta := if first then delta / 700 else delta / 2
  let (delta, k) := scaleDown (delta + delta / count) 0
  k + 36 * delta / (delta + 38)

def numberDigits (bias position q : Nat) : List Char :=
  let t := threshold position bias
  if q < t then [digitChar q]
  else digitChar (t + (q - t) % (base - t)) ::
    numberDigits bias (position + base) ((q - t) / (base - t))
termination_by q
decreasing_by
  have h := threshold_pos position bias
  exact Nat.lt_of_le_of_lt (Nat.div_le_self _ _) (by omega)

/-- The counting of an encoder: the digits so far, the steps since the last number, the bias, and
how many characters are written. -/
structure Counting where
  digits : List Char
  delta : Nat
  bias : Nat
  written : Nat

def Counting.pass (basic m : Nat) (st : Counting) (c : Char) : Counting :=
  if c.toNat < m then { st with delta := st.delta + 1 }
  else if c.toNat = m then
    ⟨st.digits ++ numberDigits st.bias base st.delta, 0,
      adapt st.delta (st.written + 1) (st.written == basic), st.written + 1⟩
  else st

/-- Counts on from the code point `n` to each of the given ones. -/
def countAll (text : List Char) (basic : Nat) (n : Nat) (st : Counting) : List Nat → Counting
  | [] => st
  | m :: rest =>
    let st := { st with delta := st.delta + (m - n) * (st.written + 1) }
    let st := text.foldl (Counting.pass basic m) st
    countAll text basic (m + 1) { st with delta := st.delta + 1 } rest

def insertSorted (n : Nat) : List Nat → List Nat
  | [] => [n]
  | m :: ms => if n < m then n :: m :: ms else if n = m then m :: ms else m :: insertSorted n ms

/-- The code points of a text that are counted, each once and in order. -/
def countedPoints (text : List Char) : List Nat :=
  ((text.map Char.toNat).filter (firstCodePoint ≤ ·)).foldr insertSorted []

def basicPart (text : List Char) : List Char :=
  text.filter (·.toNat < firstCodePoint)

def codedPart (text : List Char) : List Char :=
  let basic := (basicPart text).length
  (countAll text basic firstCodePoint ⟨[], 0, firstBias, basic⟩ (countedPoints text)).digits

def encode (text : List Char) : List Char :=
  basicPart text ++ (if (basicPart text).isEmpty then [] else ['-']) ++ codedPart text

/-- The state of a decoder: the text so far, the code point and the place that were found last, the
bias, and the number that is being read with the weight and position of its next digit. -/
structure Decoding where
  text : List Char
  point : Nat
  place : Nat
  bias : Nat
  number : Nat
  weight : Nat
  position : Nat

def Decoding.insert? (st : Decoding) (number : Nat) : Option Decoding :=
  let count := st.text.length + 1
  let point := st.point + number / count
  let place := number % count
  if point.isValidChar then
    some {
      text := st.text.take place ++ Char.ofNat point :: st.text.drop place
      point := point
      place := place + 1
      bias := adapt (number - st.place) count (st.place == 0)
      number := place + 1
      weight := 1
      position := base }
  else none

/-- Reads one digit; a small one is the last of its number. -/
def Decoding.digit? (st : Decoding) (c : Char) : Option Decoding := do
  let d ← digitValue? c
  let number := st.number + d * st.weight
  let t := threshold st.position st.bias
  if t ≤ d then
    return { st with
      number := number
      weight := st.weight * (base - t)
      position := st.position + base }
  else st.insert? number

def Decoding.start (basic : List Char) : Decoding :=
  ⟨basic, firstCodePoint, 0, firstBias, 0, 1, base⟩

/-- Splits the ASCII characters from the digits behind the last hyphen. -/
def splitBasic (s : List Char) : List Char × List Char :=
  match s.reverse.dropWhile (· != '-') with
  | '-' :: c :: before => ((c :: before).reverse, (s.reverse.takeWhile (· != '-')).reverse)
  | _ => ([], s)

def decode? (s : List Char) : Option (List Char) := do
  let (basic, digits) := splitBasic s
  let st ← digits.foldlM Decoding.digit? (.start basic)
  if st.position = base then some st.text else none

end EpisodeGuide.Url.Punycode
