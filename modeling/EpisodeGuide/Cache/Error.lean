/-!
Failures of the episode cache, each with its text. A column of the cache table is named by its
position in a read row.
-/

namespace EpisodeGuide

/-- The columns of a row as they are read. -/
inductive Column where
  | season
  | number
  | name
  | airDate
  | lastUpdated
  deriving DecidableEq, Repr

def Column.index : Column → Nat
  | .season => 0
  | .number => 1
  | .name => 2
  | .airDate => 3
  | .lastUpdated => 4

def Column.title : Column → String
  | .season => "season_number"
  | .number => "episode_number"
  | .name => "episode_name"
  | .airDate => "air_date"
  | .lastUpdated => "last_updated"

inductive StorageFault where
  | noTable
  | trapped
  | outOfRange (value : Int) (column : Column)
  | wrongType (typeName : String) (column : Column)
  | notADatabase
  | cannotOpen (path : String)
  | nulInPath (position : Nat)
  | other (text : String)
  deriving DecidableEq, Repr

def StorageFault.message : StorageFault → String
  | .noTable => "no such table: thetvdb_episodes"
  | .trapped => "trapped"
  | .outOfRange value column =>
    "Integer " ++ toString value ++ " out of range at index " ++ toString column.index
  | .wrongType typeName column =>
    "Invalid column type " ++ typeName ++ " at index: " ++
      toString column.index ++ ", name: " ++ column.title
  | .notADatabase => "file is not a database"
  | .cannotOpen path => "unable to open database file: " ++ path
  | .nulInPath position => "nul byte found in provided data at position: " ++ toString position
  | .other text => text

inductive FileFault where
  | isDirectory
  | notDirectory
  | exists
  | notFound
  | invalidUtf8
  | nulInName
  | other (text : String)
  deriving DecidableEq, Repr

def FileFault.message : FileFault → String
  | .isDirectory => "Is a directory (os error 21)"
  | .notDirectory => "Not a directory (os error 20)"
  | .exists => "File exists (os error 17)"
  | .notFound => "No such file or directory (os error 2)"
  | .invalidUtf8 => "stream did not contain valid UTF-8"
  | .nulInName => "file name contained an unexpected NUL byte"
  | .other text => text

inductive CacheError where
  | directoryNotFound
  | directoryCreationFailed (path : String) (fault : FileFault)
  | openFailed (path : String) (fault : StorageFault)
  | queryFailed (fault : StorageFault)
  deriving DecidableEq, Repr

def CacheError.message : CacheError → String
  | .directoryNotFound => "Failed to determine cache directory location"
  | .directoryCreationFailed path fault =>
    "Failed to create cache directory at " ++ path ++ ": " ++ fault.message
  | .openFailed path fault => "Failed to open episode cache at " ++ path ++ ": " ++ fault.message
  | .queryFailed fault => "Episode cache query failed: " ++ fault.message

end EpisodeGuide
