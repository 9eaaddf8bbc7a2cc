import EpisodeGuide.Binary64.Decimal
import EpisodeGuide.Cache.Error
import EpisodeGuide.Text.Digit
import EpisodeGuide.Word

/-!
Cells of the cache table. A column prefers one class of values: a number column turns texts that
spell numbers into numbers, and a text column turns numbers into their texts. Cells are ordered by
class first, numbers by their exact value, and texts and blobs by their bytes.

Texts here are texts of characters. A database can be given bytes under the text class that are not
well-formed UTF-8; such cells are left out, and with them the failure of a read that meets one.
-/

namespace EpisodeGuide

open Text

inductive Cell where
  | integer (i : Int)
  | real (x : Binary64)
  | infinite (negative : Bool)
  | text (s : String)
  | blob (bytes : List UInt8)
  deriving DecidableEq, Repr

namespace Cell

def isPadding (c : Char) : Bool :=
  c == ' ' || (9 ≤ c.toNat && c.toNat ≤ 13)

/-- A real number in a number column: an integer cell when it is whole and close enough to zero. -/
def ofReal (x : Binary64) : Cell :=
  match x.toInt? with
  | some i => if Word.fitsSigned64 i && Word.fitsSigned64 (-i) then .integer i else .real x
  | none => .real x

def ofScaled (negative : Bool) (digits : List Nat) (e : Int) : Cell :=
  match Magnitude.ofRatio? (ofDigits 10 digits * Nat.pow 10 e.toNat) (Nat.pow 10 (-e).toNat) with
  | some m => ofReal ⟨negative, m⟩
  | none => .infinite negative

/-- The largest exponent that is told apart from larger ones. -/
def maxExponent : Nat := 10000

def takeSign : List Char → Bool × List Char
  | '-' :: r => (true, r)
  | '+' :: r => (false, r)
  | s => (false, s)

def takeFraction : List Char → Option (List Nat) × List Char
  | '.' :: r =>
    let (digits, rest) := takeDigits r
    (some digits, rest)
  | s => (none, s)

def takeExponent (s : List Char) : Option (Option Int × List Char) :=
  match s with
  | [] => some (none, [])
  | c :: r =>
    if c == 'e' || c == 'E' then
      let (negative, r) := takeSign r
      match takeDigits r with
      | ([], _) => none
      | (digits, rest) =>
        let n : Int := min (ofDigits 10 digits) maxExponent
        some (some (if negative then -n else n), rest)
    else some (none, s)

/-- The number that a text spells: spaces around it, a sign, digits with or without a point among
them, and an exponent. A number without point and exponent stays an integer if a cell can hold
it. -/
def number? (s : List Char) : Option Cell := do
  let (negative, s) := takeSign (s.dropWhile isPadding)
  let (whole, s) := takeDigits s
  let (fraction, s) := takeFraction s
  let (exponent, s) ← takeExponent s
  let digits := whole ++ fraction.getD []
  if digits.isEmpty || !s.all isPadding then none
  else
    let n : Int := ofDigits 10 whole
    let i := if negative then -n else n
    if fraction.isNone && exponent.isNone && Word.fitsSigned64 i then some (.integer i)
    else
      let places : Int := (fraction.getD []).length
      some (ofScaled negative digits (exponent.getD 0 - places))

/-- The class of values that a column prefers. -/
inductive Affinity where
  | number
  | text
  deriving DecidableEq, Repr

def store : Affinity → Cell → Cell
  | .number, .text s => (number? s.toList).getD (.text s)
  | .number, .real x => ofReal x
  | .text, .integer i => .text (toString i)
  | .text, .real x => .text x.columnText
  | _, c => c

/-- Compares the UTF-8 bytes of two texts, that is, their characters one by one. -/
def compareText (s t : String) : Ordering :=
  compare s t

def compareBytes : List UInt8 → List UInt8 → Ordering
  | [], [] => .eq
  | [], _ :: _ => .lt
  | _ :: _, [] => .gt
  | a :: as, b :: bs => (compare a b).then (compareBytes as bs)

def rank : Cell → Nat
  | .integer _ | .real _ | .infinite _ => 0
  | .text _ => 1
  | .blob _ => 2

def order : Cell → Cell → Ordering
  | .integer i, .integer j => compare i j
  | .integer i, .real x => Binary64.compareInt i x
  | .real x, .integer i => (Binary64.compareInt i x).swap
  | .real x, .real y => Binary64.compareExact x y
  | .infinite true, .infinite true => .eq
  | .infinite false, .infinite false => .eq
  | .infinite true, .infinite false => .lt
  | .infinite false, .infinite true => .gt
  | .infinite negative, .integer _ => if negative then .lt else .gt
  | .infinite negative, .real _ => if negative then .lt else .gt
  | .integer _, .infinite negative => if negative then .gt else .lt
  | .real _, .infinite negative => if negative then .gt else .lt
  | .text s, .text t => compareText s t
  | .blob a, .blob b => compareBytes a b
  | c, d => compare c.rank d.rank

def typeName : Cell → String
  | .integer _ => "Integer"
  | .real _ | .infinite _ => "Real"
  | .text _ => "Text"
  | .blob _ => "Blob"

def readInteger (column : Column) : Cell → Except StorageFault Int
  | .integer i => .ok i
  | c => .error (.wrongType c.typeName column)

def readNumber (column : Column) : Cell → Except StorageFault UInt32
  | .integer i =>
    match Word.unsigned32? i with
    | some n => .ok n
    | none => .error (.outOfRange i column)
  | c => .error (.wrongType c.typeName column)

def readText (column : Column) : Cell → Except StorageFault String
  | .text s => .ok s
  | c => .error (.wrongType c.typeName column)

end Cell

end EpisodeGuide
