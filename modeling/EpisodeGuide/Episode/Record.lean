import EpisodeGuide.Episode.Basic
import EpisodeGuide.Json.Fields
import EpisodeGuide.Json.Printer

/-!
Episodes as JSON records of five required fields. The numbers are whole and fit 32 bits; a listing
is an array of records.
-/

namespace EpisodeGuide.Episode

open Json

def fieldNames : List String :=
  ["series_id", "season_number", "episode_number", "episode_name", "air_date"]

def toValue (e : Episode) : Value :=
  .object [
    ("series_id", .text e.seriesId),
    ("season_number", .number (.integer e.season.toNat)),
    ("episode_number", .number (.integer e.number.toNat)),
    ("episode_name", .text e.name),
    ("air_date", .text e.airDate)]

def listValue (episodes : List Episode) : Value :=
  .array (episodes.map toValue)

def readNumber? : Document → Option UInt32
  | .number n =>
    match n.value? with
    | some (.integer i) => Word.unsigned32? i
    | _ => none
  | _ => none

def ofDocument? (d : Document) : Option Episode :=
  match d.fields? fieldNames with
  | some [some series, some season, some number, some name, some date] => do
    let series ← series.readText?
    let season ← readNumber? season
    let number ← readNumber? number
    let name ← name.readText?
    let date ← date.readText?
    return ⟨series, season, number, name, date⟩
  | _ => none

def ofText? (s : String) : Option Episode :=
  (Document.ofText? s).bind ofDocument?

def listOfText? (s : String) : Option (List Episode) :=
  (Document.ofText? s).bind fun d => d.items?.bind (·.mapM ofDocument?)

end EpisodeGuide.Episode
