import EpisodeGuide.Cache.Open
import EpisodeGuide.Config.Basic
import EpisodeGuide.Config.Location

/-!
Loading of settings. A missing file stands for the defaults; a file that is there must be readable
and well formed. A key from the environment takes the place of the one in the file unless it is
blank.
-/

namespace EpisodeGuide

open Files

def keyVariable : String := "TVDB_API_KEY"

/-- The key that the variable holds, given its bytes if it is set: bytes that are no text hold
none. -/
def environmentKey (value : Option (List UInt8)) : Option String :=
  value.bind fun bytes => String.fromUTF8? ⟨bytes.toArray⟩

inductive ConfigError where
  | directoryNotFound
  | readFailed (path : String) (fault : FileFault)
  /-- The file could not be read as settings; the reader's own words, if any. -/
  | parseFailed (path : String) (detail : Option String)
  deriving DecidableEq, Repr

def ConfigError.message : ConfigError → String
  | .directoryNotFound => "Failed to determine config directory location"
  | .readFailed path fault => "Failed to read config file " ++ path ++ ": " ++ fault.message
  | .parseFailed path detail => withDetail ("Failed to parse config file " ++ path) detail

namespace Config

/-- The bytes of a file. Those of a database file are left out: one byte that starts no text stands
for them, so that a database read as settings is refused as no text. -/
def fileBytes : Content → List UInt8
  | .bytes bytes => bytes
  | .database _ => [0xff]

def readFile (path : String) (disk : Disk) : Except FileFault String := do
  let content ← disk.readFile path
  match String.fromUTF8? ⟨(fileBytes content).toArray⟩ with
  | some text => return text
  | none => throw .invalidUtf8

def ofFile (path : String) (disk : Disk) : Except ConfigError Config :=
  if disk.existsAt path then
    match readFile path disk with
    | .error fault => .error (.readFailed path fault)
    | .ok text =>
      match ofText? text with
      | some config => .ok config
      | none => .error (.parseFailed path none)
  else .ok default

def loadFrom (path : String) (environmentKey : Option String) (disk : Disk) :
    Except ConfigError Config :=
  (ofFile path disk).map (overrideApiKey environmentKey)

def load (surroundings : Surroundings) (environmentKey : Option String) (disk : Disk) :
    Except ConfigError Config :=
  match surroundings.configPath with
  | none => .error .directoryNotFound
  | some path => loadFrom path environmentKey disk

end Config

end EpisodeGuide
