import EpisodeGuide.Cache.Error
import EpisodeGuide.Files.Path

/-!
Trees of directories and files, and what paths lead to in them. A path that does not start at the
root starts at the working directory; every name on the way must be a directory.
-/

namespace EpisodeGuide.Files

inductive Node (α : Type) where
  | directory
  | file (content : α)

/-- A tree of files with contents in `α`. A place is the list of names that leads to it from the
root. -/
structure Tree (α : Type) where
  workingDirectory : List String
  entries : List (List String × Node α)

namespace Tree

variable {α : Type}

def ofWorkingDirectory (place : List String) : Tree α where
  workingDirectory := place
  entries := (List.range place.length).map (fun n => (place.take (n + 1), .directory))

/-- What stands at a place; the root is a directory. -/
def node? (t : Tree α) (place : List String) : Option (Node α) :=
  if place = [] then some .directory
  else (t.entries.find? (fun e => e.1 = place)).map Prod.snd

def isDirectoryAt (t : Tree α) (place : List String) : Bool :=
  match t.node? place with
  | some .directory => true
  | _ => false

def put (t : Tree α) (place : List String) (node : Node α) : Tree α :=
  { t with entries := (place, node) :: t.entries.filter (fun e => e.1 ≠ place) }

def follow (t : Tree α) (place : List String) (part : String) : Except FileFault (List String) :=
  match t.node? place with
  | none => .error .notFound
  | some (.file _) => .error .notDirectory
  | some .directory =>
    if part == "" || part == "." then .ok place
    else if part == ".." then .ok place.dropLast
    else .ok (place ++ [part])

def start (t : Tree α) (path : String) : List String :=
  if isAbsolute path then [] else t.workingDirectory

/-- The place that a path leads to. Nothing need stand there, but all on the way must be
directories. -/
def locate (t : Tree α) (path : String) : Except FileFault (List String) :=
  if path.isEmpty then .error .notFound
  else if path.toList.contains '\x00' then .error .nulInName
  else (parts path).foldlM t.follow (t.start path)

def existsAt (t : Tree α) (path : String) : Bool :=
  match t.locate path with
  | .ok place => (t.node? place).isSome
  | .error _ => false

def isDirectory (t : Tree α) (path : String) : Bool :=
  match t.locate path with
  | .ok place => t.isDirectoryAt place
  | .error _ => false

def readFile (t : Tree α) (path : String) : Except FileFault α := do
  match t.node? (← t.locate path) with
  | none => throw .notFound
  | some .directory => throw .isDirectory
  | some (.file content) => return content

def makeDirectory (t : Tree α) (path : String) : Except FileFault (Tree α) := do
  let place ← t.locate path
  match t.node? place with
  | some _ => throw .exists
  | none => return t.put place .directory

def ensureDirectory (t : Tree α) (path : String) : Except FileFault (Tree α) :=
  match t.makeDirectory path with
  | .ok made => .ok made
  | .error e => if t.isDirectory path then .ok t else .error e

/-- Makes the last of some directories, each the parent of the one before, and before it those that
are missing. -/
def ensureChain (t : Tree α) : List String → Except FileFault (Tree α)
  | [] => .ok t
  | path :: parents =>
    match t.ensureDirectory path with
    | .error .notFound => (ensureChain t parents).bind (·.ensureDirectory path)
    | outcome => outcome

/-- A path and its parents up to the root or the working directory. -/
def chain (steps : Nat) (path : String) : List String :=
  match steps with
  | 0 => []
  | steps + 1 =>
    if path.isEmpty then []
    else path :: ((parent? path).map (chain steps)).getD []

def createDirectories (t : Tree α) (path : String) : Except FileFault (Tree α) :=
  t.ensureChain (chain (path.length + 1) path)

end Tree

end EpisodeGuide.Files
