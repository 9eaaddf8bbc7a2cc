import EpisodeGuide.Cache.Cell
import EpisodeGuide.Episode.Basic

/-!
The table of cached episodes: rows in the order of their insertion. The rows of a series are read in
the order of season and number, rows with equal keys in the order of insertion; every row must
decode.
-/

namespace EpisodeGuide

structure Row where
  series : Cell
  season : Cell
  number : Cell
  name : Cell
  airDate : Cell
  lastUpdated : Cell
  deriving DecidableEq, Repr

namespace Row

/-- The row that the table keeps when the given values are inserted. -/
def store (r : Row) : Row where
  series := r.series.store .text
  season := r.season.store .number
  number := r.number.store .number
  name := r.name.store .text
  airDate := r.airDate.store .text
  lastUpdated := r.lastUpdated.store .number

def ofEpisode (series : String) (time : Int) (e : Episode) : Row where
  series := .text series
  season := .integer e.season.toNat
  number := .integer e.number.toNat
  name := .text e.name
  airDate := .text e.airDate
  lastUpdated := .integer time

def isOf (series : String) (r : Row) : Bool :=
  r.series == .text series

def order (a b : Row) : Ordering :=
  (a.season.order b.season).then (a.number.order b.number)

/-- The episode and the time that a row of a series holds, or its first bad column. -/
def decode (series : String) (r : Row) : Except StorageFault (Episode × Int) := do
  let season ← r.season.readNumber .season
  let number ← r.number.readNumber .number
  let name ← r.name.readText .name
  let airDate ← r.airDate.readText .airDate
  let lastUpdated ← r.lastUpdated.readInteger .lastUpdated
  return (⟨series, season, number, name, airDate⟩, lastUpdated)

end Row

namespace Table

def rowsOf (series : String) (rows : List Row) : List Row :=
  (rows.filter (Row.isOf series)).mergeSort (fun a b => a.order b != .gt)

/-- What the rows of a series hold, or the first bad column of the first bad row. -/
def load (series : String) (rows : List Row) : Except StorageFault (List (Episode × Int)) :=
  (rowsOf series rows).mapM (Row.decode series)

end Table

end EpisodeGuide
