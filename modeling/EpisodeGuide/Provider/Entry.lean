import EpisodeGuide.Episode.Basic
import EpisodeGuide.Json.Value
import EpisodeGuide.Text.Blank

/-!
Entries of a listing page. Every entry that is an object becomes an episode, whatever its members
hold: a field that is missing or of the wrong kind counts as absent, and numbers may come as
integers, whole floats or digits in a text.
-/

namespace EpisodeGuide.Provider

open Json

structure Entry where
  season : Option UInt32
  number : Option UInt32
  name : Option String
  aired : Option String
  deriving DecidableEq, Repr

/-- The number that a trimmed text of digits spells, an optional plus sign in front. -/
def spelledNumber? (s : List Char) : Option Nat :=
  match Text.trimChars s with
  | '+' :: digits => Text.natural? digits
  | digits => Text.natural? digits

/-- The number that a field means: a whole number from 0 to `2 ^ 32 - 1`, or nothing. -/
def lenientNumber : Value → Option UInt32
  | .number (.integer i) => Word.unsigned32? i
  | .number (.real x) => x.toNat?.bind (Word.unsigned32? ·)
  | .text s => (spelledNumber? s.toList).bind (Word.unsigned32? ·)
  | _ => none

def lenientText : Value → Option String
  | .text s => some s
  | _ => none

namespace Entry

def fieldNames : List String :=
  ["seasonNumber", "number", "name", "aired"]

def ofFields (field : Nat → Option Value) : Entry where
  season := (field 0).bind lenientNumber
  number := (field 1).bind lenientNumber
  name := (field 2).bind lenientText
  aired := (field 3).bind lenientText

/-- The entry that a value describes: an object, or an array with no more items than there are
fields. -/
def ofValue? : Value → Option Entry
  | .object members => some (ofFields (fun i => fieldNames[i]?.bind (Value.get? · members)))
  | .array items => if items.length ≤ fieldNames.length then some (ofFields (items[·]?)) else none
  | _ => none

/-- The episode of a series; what is absent becomes 0 or the empty text. -/
def toEpisode (seriesId : String) (e : Entry) : Episode where
  seriesId := seriesId
  season := e.season.getD 0
  number := e.number.getD 0
  name := e.name.getD ""
  airDate := e.aired.getD ""

end Entry

end EpisodeGuide.Provider
