import EpisodeGuide.Cache.Database
import EpisodeGuide.Log

/-!
The cache of episode lists. The rows of a series are replaced as a whole and expire together: the
first row in the order of reading tells the age of all, and a list is served for one day.
-/

namespace EpisodeGuide

/-- Seconds for which a cached list is served. -/
def cacheLifetime : Int := 86400

/-- The time of the cache: seconds since the epoch, never below zero. -/
def cacheTime (clock : Int) : Int :=
  max clock 0

inductive Lookup where
  | hit (episodes : List Episode)
  | absent
  | expired
  | failed (e : CacheError)
  deriving DecidableEq, Repr

/-- The events of a look into the cache. A failure is for the caller to report. -/
def Lookup.events (series : String) : Lookup → List Event
  | .hit episodes => [.cacheHit series episodes.length]
  | .expired => [.cacheExpired series]
  | .absent | .failed _ => []

namespace Database

/-- What the decoded rows of a series mean at a time. -/
def judge (clock : Int) : List (Episode × Int) → Lookup
  | [] => .absent
  | (episode, lastUpdated) :: rest =>
    if Word.saturatingSub (cacheTime clock) lastUpdated > cacheLifetime then .expired
    else .hit (episode :: rest.map Prod.fst)

def read (clock : Int) (series : String) (db : Database) : Lookup :=
  match db.rows.bind (Table.load series) with
  | .ok found => judge clock found
  | .error fault => .failed (.queryFailed fault)

def replaceRows (series : String) (rows : List Row) (db : Database) :
    Except StorageFault (Unit × Database) := do
  let (_, db) ← db.deleteRows (Row.isOf series)
  let db ← db.insertRows rows
  return ((), db)

def write (clock : Int) (series : String) (episodes : List Episode) (db : Database) :
    Except CacheError Unit × Database :=
  let (result, db) := db.transact
    (replaceRows series (episodes.map (Row.ofEpisode series (cacheTime clock))))
  (result.mapError .queryFailed, db)

def inScope (series : Option String) (r : Row) : Bool :=
  match series with
  | some id => r.isOf id
  | none => true

/-- Deletes the rows of a series, or all rows, and counts them. -/
def clear (series : Option String) (db : Database) : Except CacheError Nat × Database :=
  let (result, db) := db.transact (deleteRows (inScope series))
  (result.mapError .queryFailed, db)

end Database

end EpisodeGuide
