import EpisodeGuide.Text.Digit

/-!
Addresses of 32 bits in hosts. An address has one to four numbers, decimal, octal after a zero or
hexadecimal after `0x`; the last number fills all bytes that are left.
-/

namespace EpisodeGuide.Url.Ipv4

open EpisodeGuide.Text

def splitBase : List Char → Nat × List Char
  | '0' :: 'x' :: r => (16, r)
  | '0' :: 'X' :: r => (16, r)
  | '0' :: c :: r => (8, c :: r)
  | s => (10, s)

def digitIn? (base : Nat) (c : Char) : Option Nat :=
  (hexDigit? c).filter (· < base)

/-- A number of an address; a mark of a base alone means zero. -/
def number? (s : List Char) : Option Nat :=
  if s.isEmpty then none
  else
    let (base, digits) := splitBase s
    (digits.mapM (digitIn? base)).map (ofDigits base)

def labels (host : List Char) : List (List Char) :=
  host.splitOn '.'

/-- The labels less one empty last label. -/
def parts (host : List Char) : List (List Char) :=
  let ls := labels host
  if ls.getLast? = some [] then ls.dropLast else ls

/-- Whether a host must be an address: its last label is a number. -/
def endsInNumber (host : List Char) : Bool :=
  match (parts host).getLast? with
  | none => false
  | some last => (!last.isEmpty && last.all isDigit) || (number? last).isSome

/-- The address of the numbers `front` of a byte each and the number `last` for the rest. -/
def combine? (front : List Nat) (last : Nat) : Option Nat :=
  if front.length ≤ 3 ∧ front.all (· ≤ 255) ∧ last < Nat.pow 256 (4 - front.length) then
    some (ofDigits 256 front * Nat.pow 256 (4 - front.length) + last)
  else none

def ofHost? (host : List Char) : Option Nat :=
  match (parts host).mapM number? with
  | none => none
  | some numbers =>
    match numbers.getLast? with
    | none => none
    | some last => combine? numbers.dropLast last

def print (address : Nat) : List Char :=
  Nat.toDigits 10 (address / 0x1000000 % 256) ++ '.' :: Nat.toDigits 10 (address / 0x10000 % 256) ++
    '.' :: Nat.toDigits 10 (address / 0x100 % 256) ++ '.' :: Nat.toDigits 10 (address % 256)

end EpisodeGuide.Url.Ipv4
