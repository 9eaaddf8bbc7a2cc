import EpisodeGuide.Binary64.Decimal
import EpisodeGuide.Json.Document
import EpisodeGuide.Word

/-!
JSON values as data: texts are characters, numbers are 64-bit integers or double-width numbers, and
an object maps each key to its last member. A document has a value when its surrogates pair up, its
numbers are in range and its nesting stays within a limit.
-/

namespace EpisodeGuide.Json

/-- A number: an integer from `-2 ^ 63` to `2 ^ 64 - 1`, or a double-width number. -/
inductive Number where
  | integer (i : Int)
  | real (x : Binary64)
  deriving DecidableEq, Repr

inductive Value where
  | null
  | bool (b : Bool)
  | number (n : Number)
  | text (s : String)
  | array (items : List Value)
  | object (members : List (String × Value))

def maxDepth : Nat := 127

def isHighSurrogate (u : Nat) : Bool :=
  0xD800 ≤ u && u < 0xDC00

def isLowSurrogate (u : Nat) : Bool :=
  0xDC00 ≤ u && u < 0xE000

/-- The characters of a quoted text; a surrogate counts only together with its partner. -/
def Piece.decode? : List Piece → Option (List Char)
  | [] => some []
  | .char c :: ps => (decode? ps).map (c :: ·)
  | .code u :: .code v :: ps =>
    if isHighSurrogate u then
      if isLowSurrogate v then
        (decode? ps).map (Char.ofNat (0x10000 + (u - 0xD800) * 0x400 + (v - 0xDC00)) :: ·)
      else none
    else if isLowSurrogate u then none
    else (decode? (.code v :: ps)).map (Char.ofNat u :: ·)
  | .code u :: ps =>
    if isHighSurrogate u || isLowSurrogate u then none
    else (decode? ps).map (Char.ofNat u :: ·)

def Piece.text? (ps : List Piece) : Option String :=
  (Piece.decode? ps).map String.ofList

def maxSignificand : Nat := UInt64.size - 1

/-- Adds digits to a significand as long as it stays within its limit; also the count of digits that
did not fit. -/
def extendSignificand (n : Nat) : List Nat → Nat × Nat
  | [] => (n, 0)
  | d :: ds =>
    if n * 10 + d ≤ maxSignificand then extendSignificand (n * 10 + d) ds
    else (n, ds.length + 1)

/-- The significand of a numeral and the power of ten that goes with it. Whole digits that do not
fit count as zeros, fraction digits that do not fit are dropped. -/
def Numeral.significand (n : Numeral) : Nat × Int :=
  let (whole, dropped) := extendSignificand 0 n.whole
  let digits := n.fraction.getD []
  let (all, unread) := extendSignificand whole digits
  (all, (dropped : Int) - ((digits.length - unread : Nat) : Int))

/-- The number that a numeral denotes: an integer when it is written as one and fits 64 bits,
otherwise the double-width number found by scaling its significand; nothing when that is too large.
Negative zero is no integer. -/
def Numeral.value? (n : Numeral) : Option Number :=
  let i : Int := Text.ofDigits 10 n.whole
  let isInteger := n.fraction.isNone && n.exponent.isNone
  if isInteger && !n.negative && decide (i ≤ maxSignificand) then some (.integer i)
  else if isInteger && n.negative && decide (0 < i) && Word.fitsSigned64 (-i) then
    some (.integer (-i))
  else
    let (significand, power) := n.significand
    (Magnitude.scaleTen? significand (power + n.exponent.getD 0)).map
      (fun m => .real ⟨n.negative, m⟩)

/-- Puts a member into a sorted list of members in place of an earlier one with its key. -/
def insertMember (key : String) (v : Value) : List (String × Value) → List (String × Value)
  | [] => [(key, v)]
  | (k, w) :: rest =>
    if key < k then (key, v) :: (k, w) :: rest
    else if key = k then (key, v) :: rest
    else (k, w) :: insertMember key v rest

mutual

def Document.value? (room : Nat) : Document → Option Value
  | .null => some .null
  | .bool b => some (.bool b)
  | .number n => n.value?.map .number
  | .text ps => (Piece.text? ps).map .text
  | .array items => if room = 0 then none else (itemValues? (room - 1) items).map .array
  | .object members =>
    if room = 0 then none else (memberValues? (room - 1) members []).map .object

def itemValues? (room : Nat) : List Document → Option (List Value)
  | [] => some []
  | d :: ds =>
    match d.value? room, itemValues? room ds with
    | some v, some vs => some (v :: vs)
    | _, _ => none

def memberValues? (room : Nat) :
    List (List Piece × Document) → List (String × Value) → Option (List (String × Value))
  | [], found => some found
  | (k, d) :: ms, found =>
    match Piece.text? k, d.value? room with
    | some key, some v => memberValues? room ms (insertMember key v found)
    | _, _ => none

end

namespace Value

def ofText? (s : String) : Option Value :=
  (Document.ofText? s).bind (Document.value? maxDepth)

def get? (key : String) : List (String × Value) → Option Value
  | [] => none
  | (k, v) :: rest => if k = key then some v else get? key rest

end Value

end EpisodeGuide.Json
