import EpisodeGuide.Text.Digit

/-!
Tables of code points. A table is written as text: hexadecimal numbers with a space between entries,
and a hyphen between the first and the last number of a range.
-/

namespace EpisodeGuide.Unicode

structure Range where
  first : Nat
  last : Nat
  deriving DecidableEq, Repr

namespace Range

def holds (c : Nat) (r : Range) : Bool :=
  r.first ≤ c && c ≤ r.last

def number (s : List Char) : Nat :=
  Text.ofDigits 16 (s.filterMap Text.hexDigit?)

def ofEntry (s : List Char) : Range :=
  match s.splitOn '-' with
  | [first, last] => ⟨number first, number last⟩
  | parts => ⟨number parts.flatten, number parts.flatten⟩

def entries (lines : List String) : List (List Char) :=
  lines.flatMap (fun line => line.toList.splitOn ' ')

def ofLines (lines : List String) : List Range :=
  (entries lines).map ofEntry

end Range

def inRanges (ranges : List Range) (c : Nat) : Bool :=
  ranges.any (Range.holds c)

/-- The value of the first range that holds a code point. -/
def valueIn? {α : Type} (table : List (α × List Range)) (c : Nat) : Option α :=
  (table.find? (fun row => inRanges row.2 c)).map Prod.fst

end EpisodeGuide.Unicode
