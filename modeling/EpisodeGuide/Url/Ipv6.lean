import EpisodeGuide.Text.Digit

/-!
Addresses of 128 bits in hosts: eight pieces of 16 bits. Two colons stand for one or more zero
pieces, once; the last two pieces may be written as four decimal bytes. The text of an address
shortens its longest run of zero pieces.
-/

namespace EpisodeGuide.Url.Ipv6

open EpisodeGuide.Text

def splitGap : List Char → List Char × Option (List Char)
  | ':' :: ':' :: r => ([], some r)
  | c :: r => (splitGap r).map (c :: ·) id
  | [] => ([], none)

def piece? (s : List Char) : Option Nat :=
  if s.isEmpty || s.length > 4 then none else (s.mapM hexDigit?).map (ofDigits 16)

def byte? (s : List Char) : Option Nat :=
  match s with
  | '0' :: _ :: _ => none
  | _ => (natural? s).filter (· ≤ 255)

def dotted? (s : List Char) : Option (List Nat) :=
  match (s.splitOn '.').mapM byte? with
  | some [a, b, c, d] => some [a * 256 + b, c * 256 + d]
  | _ => none

/-- The pieces on one side of a gap; only the end of the whole address may be dotted. -/
def side? (last : Bool) (s : List Char) : Option (List Nat) :=
  if s.isEmpty then some []
  else
    let groups := s.splitOn ':'
    match groups.getLast? with
    | none => none
    | some final =>
      let tail := if last && final.contains '.' then dotted? final else (piece? final).map ([·])
      match groups.dropLast.mapM piece?, tail with
      | some front, some back => some (front ++ back)
      | _, _ => none

def ofText? (s : List Char) : Option (List Nat) :=
  match splitGap s with
  | (whole, none) =>
    match side? true whole with
    | some pieces => if pieces.length = 8 then some pieces else none
    | none => none
  | (left, some right) =>
    match side? false left, side? true right with
    | some front, some back =>
      let given := front.length + back.length
      if given ≤ 7 then some (front ++ List.replicate (8 - given) 0 ++ back) else none
    | _, _ => none

def zeroRun (pieces : List Nat) : Nat :=
  (pieces.takeWhile (· == 0)).length

/-- The start and length of the first among the longest runs of zeros, counted from position `i`. -/
def longestRun (i : Nat) : List Nat → Nat × Nat
  | [] => (i, 0)
  | p :: ps =>
    let here := zeroRun (p :: ps)
    let later := longestRun (i + 1) ps
    if here ≥ later.2 then (i, here) else later

def joinPieces (pieces : List Nat) : List Char :=
  [':'].intercalate (pieces.map lowerHex)

/-- The pieces in hexadecimal, colons between them; a run of two zeros or more becomes two
colons. -/
def print (pieces : List Nat) : List Char :=
  let (start, length) := longestRun 0 pieces
  if length < 2 then joinPieces pieces
  else joinPieces (pieces.take start) ++ ':' :: ':' :: joinPieces (pieces.drop (start + length))

end EpisodeGuide.Url.Ipv6
