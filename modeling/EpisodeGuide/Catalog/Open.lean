import EpisodeGuide.Catalog.Basic
import EpisodeGuide.Config.Load

/-!
Setting up a catalog from settings: the cache is opened at the path that is set or at the default
one, and the client gets the trimmed key. A missing key is no failure; the catalog then serves what
is cached.
-/

namespace EpisodeGuide

open Http

inductive SetupError where
  | config (e : ConfigError)
  | cache (e : CacheError)
  | transport (e : TransportError)
  deriving DecidableEq, Repr

def SetupError.message : SetupError → String
  | .config e => "Configuration error: " ++ e.message
  | .cache e => "Cache error: " ++ e.message
  | .transport e => "Transport error: " ++ e.message

def Config.client (config : Config) : Client :=
  (Client.new config.usableKey config.baseUrl).withMaxPages config.maxPages

def Config.openCache (config : Config) (surroundings : Surroundings) (disk : Disk) :
    Except SetupError Cache × Disk :=
  match config.databasePath with
  | some path => (Cache.openAt path disk).map (·.mapError .cache) id
  | none =>
    match surroundings.cachePath with
    | none => (.error (.cache .directoryNotFound), disk)
    | some path => (Cache.openAt path disk).map (·.mapError .cache) id

/-- A catalog on disk: an open cache, the disk, and a source. -/
structure Library (σ : Type) where
  cache : Cache
  disk : Disk
  source : σ
  log : List Event

namespace Library

variable {σ : Type}

/-- Sets up a catalog for a client over a link. -/
def ofConfig (config : Config) (surroundings : Surroundings) (disk : Disk) (link : σ) :
    Except SetupError (Library (Session σ)) × Disk :=
  match config.openCache surroundings disk with
  | (.error e, disk) => (.error e, disk)
  | (.ok cache, disk) => (.ok ⟨cache, disk, ⟨config.client, link, []⟩, []⟩, disk)

def catalog (l : Library σ) : Catalog σ :=
  ⟨l.source, l.cache.database l.disk, l.log⟩

/-- Runs a catalog operation and keeps the database that it leaves. -/
def run {α : Type} (op : Catalog σ → α × Catalog σ) (l : Library σ) : α × Library σ :=
  let (result, c) := op l.catalog
  let (cache, disk) := l.cache.keep c.cache l.disk
  (result, ⟨cache, disk, c.source, c.log⟩)

end Library

end EpisodeGuide
