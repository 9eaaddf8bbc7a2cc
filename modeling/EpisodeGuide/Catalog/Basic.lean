import EpisodeGuide.Cache.Basic
import EpisodeGuide.Catalog.Source

/-!
The catalog: a source behind a cache. A lookup is answered from the cache when its list is fresh,
and from the source otherwise; a fetched list that is not empty replaces what was cached. Failures
of the cache are events, never failures of a lookup.
-/

namespace EpisodeGuide

structure Catalog (σ : Type) where
  source : σ
  cache : Database
  log : List Event

namespace Catalog

variable {σ : Type}

def note (events : List Event) (c : Catalog σ) : Catalog σ :=
  { c with log := c.log ++ events }

def write (clock : Int) (series : String) (episodes : List Episode) (c : Catalog σ) :
    Except CacheError Unit × Catalog σ :=
  match c.cache.write clock series episodes with
  | (.ok (), db) => (.ok (), { c with cache := db }.note [.cacheWritten series episodes.length])
  | (.error e, db) => (.error e, { c with cache := db })

/-- Caches a fetched list unless it is empty. -/
def keep (clock : Int) (series : String) (episodes : List Episode) (c : Catalog σ) : Catalog σ :=
  if episodes.isEmpty then c
  else
    match c.write clock series episodes with
    | (.ok (), c) => c
    | (.error e, c) => c.note [.cacheWriteFailed series e]

def fetch (ask : Source σ) (clock : Int) (series : String) (c : Catalog σ) :
    List Episode × Catalog σ :=
  let ((episodes, events), source) := ask series c.source
  (episodes, ({ c with source := source }.note events).keep clock series episodes)

def read (clock : Int) (series : String) (c : Catalog σ) : Lookup × Catalog σ :=
  let found := c.cache.read clock series
  (found, c.note (found.events series))

/-- The episodes of a series; nothing for a blank identifier. A refresh passes the cache over. -/
def get (ask : Source σ) (clock : Int) (series : String) (refresh : Bool) (c : Catalog σ) :
    Option (List Episode) × Catalog σ :=
  if Text.isBlank series then (none, c)
  else
    let (found, c) := if refresh then (.absent, c) else c.read clock series
    match found with
    | .hit episodes => (some episodes, c)
    | .failed e => ((c.note [.cacheReadFailed series e]).fetch ask clock series).map some id
    | .absent | .expired => (c.fetch ask clock series).map some id

def clearedEvent (removed : Nat) : Option String → Event
  | some id => .seriesCleared id removed
  | none => .allCleared removed

/-- Clears the cache of a series, or of all series for a blank identifier or none. -/
def clear (series : Option String) (c : Catalog σ) : Bool × Catalog σ :=
  let scope := Text.nonBlank? series
  match c.cache.clear scope with
  | (.ok removed, db) => (true, { c with cache := db }.note [clearedEvent removed scope])
  | (.error e, db) => (false, { c with cache := db }.note [.clearFailed e])

end Catalog

end EpisodeGuide
