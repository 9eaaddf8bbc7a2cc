import EpisodeGuide.Cache.Basic
import EpisodeGuide.Cache.Location
import EpisodeGuide.Files.Tree

/-!
Opening a cache. The directory of the database is made when it is missing, and the table is set up
unless it is there. A cache on disk keeps its rows in the file that its name leads to; any other
keeps them for itself and loses them when it is opened again.
-/

namespace EpisodeGuide

open Files

inductive Content where
  | bytes (bytes : List UInt8)
  | database (db : Database)

abbrev Disk := Files.Tree Content

/-- An open cache: the place of its database, or the database itself. -/
inductive Cache where
  | onDisk (place : List String)
  | unshared (db : Database)

namespace Disk

/-- The database at a place; one without a table if there is none. -/
def database (disk : Disk) (place : List String) : Database :=
  match disk.node? place with
  | some (.file (.database db)) => db
  | _ => .empty

def putDatabase (disk : Disk) (place : List String) (db : Database) : Disk :=
  disk.put place (.file (.database db))

end Disk

namespace Cache

def database (disk : Disk) : Cache → Database
  | onDisk place => Disk.database disk place
  | unshared db => db

def keep (db : Database) (disk : Disk) : Cache → Cache × Disk
  | onDisk place => (.onDisk place, Disk.putDatabase disk place db)
  | unshared _ => (.unshared db, disk)

def makeParent (path : String) (disk : Disk) : Except CacheError Unit × Disk :=
  match parent? path with
  | none | some "" => (.ok (), disk)
  | some parent =>
    match disk.createDirectories parent with
    | .ok made => (.ok (), made)
    | .error fault => (.error (.directoryCreationFailed parent fault), disk)

/-- The bytes of a path before the first zero, if there is one. -/
def nulPosition? (path : String) : Option Nat :=
  let bytes := path.toUTF8.toList
  if bytes.contains 0 then some (bytes.takeWhile (· != 0)).length else none

/-- The database of the file at a place: a new one for a missing or empty file. -/
def openFile (name : String) (disk : Disk) (place : List String) : Except StorageFault Database :=
  if !disk.isDirectoryAt place.dropLast then .error (.cannotOpen name)
  else
    match disk.node? place with
    | none | some (.file (.bytes [])) => .ok .empty
    | some .directory => .error (.cannotOpen name)
    | some (.file (.bytes _)) => .error .notADatabase
    | some (.file (.database db)) => .ok db

def openDatabase (name : String) (disk : Disk) : Except StorageFault (Cache × Disk) :=
  match nulPosition? name with
  | some position => .error (.nulInPath position)
  | none =>
    match Location.ofName name with
    | .memory => .ok (.unshared Database.empty.prepare, disk)
    | .file path =>
      let place := normalPlace disk.workingDirectory path
      (openFile name disk place).map fun db =>
        (.onDisk place, Disk.putDatabase disk place db.prepare)

def inMemory : Cache :=
  .unshared Database.empty.prepare

def openAt (path : String) (disk : Disk) : Except CacheError Cache × Disk :=
  match makeParent path disk with
  | (.error e, disk) => (.error e, disk)
  | (.ok (), disk) =>
    match openDatabase path disk with
    | .ok (cache, disk) => (.ok cache, disk)
    | .error fault => (.error (.openFailed path fault), disk)

end Cache

end EpisodeGuide
