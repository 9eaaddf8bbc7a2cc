/-!
Texts of file paths. A path is a list of names with slashes in between, and starts at the root when
a slash comes first. The parent of a path is the path without its last name.
-/

namespace EpisodeGuide.Files

/-- The parts between the slashes of a path, from the last to the first. -/
def partsBack (path : List Char) : List (List Char) :=
  (path.splitOn '/').reverse

def isAbsolute (path : String) : Bool :=
  path.toList.head? == some '/'

/-- Parts that name nothing: nothing between two slashes, or a dot that is not the first part. -/
def isIdlePart (part : List Char) : Bool :=
  part == [] || part == ['.']

/-- Drops the idle parts at the end; the first part stays. -/
def dropIdle : List (List Char) → List (List Char)
  | [first] => [first]
  | part :: rest => if isIdlePart part then dropIdle rest else part :: rest
  | [] => []

def joinBack (parts : List (List Char)) : String :=
  String.ofList (['/'].intercalate parts.reverse)

/-- The path without its last name. The root and the empty path have no parent; the parent of a
single name is empty. -/
def parent? (path : String) : Option String :=
  match dropIdle (partsBack path.toList) with
  | [] | [[]] => none
  | [_] => some ""
  | _ :: rest =>
    match dropIdle rest with
    | [[]] => some "/"
    | parts => some (joinBack parts)

def join (directory name : String) : String :=
  if directory.isEmpty || directory.toList.getLast? == some '/' then directory ++ name
  else directory ++ "/" ++ name

def parts (path : String) : List String :=
  (path.toList.splitOn '/').map String.ofList

/-- The place of the path behind `start` when every two dots take back the name before them,
whatever exists. -/
def normalPlace (start : List String) (path : String) : List String :=
  (parts path).foldl
    (fun place part =>
      if part == "" || part == "." then place
      else if part == ".." then place.dropLast
      else place ++ [part])
    (if isAbsolute path then [] else start)

end EpisodeGuide.Files
