import EpisodeGuide.Url.Percent

/-!
Paths of URLs as lists of segments. Adding a segment resolves dots: one dot stands for the empty
last segment, two dots take the segment before away, except a drive letter, which stays.
-/

namespace EpisodeGuide.Url

/-- A segment in its coded form. -/
abbrev Segment := List Char

/-- How the scheme of a URL treats the rest: special schemes have a host and read backslashes as
slashes, and paths of files start below an optional drive. -/
inductive Kind where
  | special (defaultPort : Option Nat)
  | file
  | other
  deriving DecidableEq, Repr

def Kind.isSpecial : Kind → Bool
  | .other => false
  | _ => true

def Kind.ofScheme (scheme : List Char) : Kind :=
  match String.ofList scheme with
  | "http" => .special (some 80)
  | "https" => .special (some 443)
  | "ws" => .special (some 80)
  | "wss" => .special (some 443)
  | "ftp" => .special (some 21)
  | "file" => .file
  | _ => .other

def plainDots : Segment → Segment
  | '%' :: '2' :: 'e' :: r => '.' :: plainDots r
  | '%' :: '2' :: 'E' :: r => '.' :: plainDots r
  | c :: r => c :: plainDots r
  | [] => []

def isSingleDot (s : Segment) : Bool :=
  plainDots s == ['.']

def isDoubleDot (s : Segment) : Bool :=
  plainDots s == ['.', '.']

def isDriveLetter : Segment → Bool
  | [a, b] => a.isAlpha && (b == ':' || b == '|')
  | _ => false

/-- A segment that starts like a drive, which two dots do not take away. -/
def startsWithDrive : Segment → Bool
  | [a, b] => isDriveLetter [a, b]
  | a :: b :: '\\' :: _ => isDriveLetter [a, b]
  | _ => false

def popSegment (path : List Segment) : List Segment :=
  match path.getLast? with
  | some s => if startsWithDrive s then path else path.dropLast
  | none => path

namespace Path

/-- The segments before a new one; a lone empty segment gives way. -/
def base (path : List Segment) : List Segment :=
  if path = [[]] then [] else path

/-- Adds a coded segment behind `path`; `last` says that no slash follows it. -/
def add (kind : Kind) (last : Bool) (path : List Segment) (s : Segment) : List Segment :=
  if isDoubleDot s then
    if last then popSegment path ++ [[]] else popSegment path
  else if isSingleDot s then
    if last then path ++ [[]] else path
  else
    match kind, path, s with
    | .file, [], [a, b] => if isDriveLetter [a, b] then [[a, ':']] else [[a, b]]
    | _, _, _ => path ++ [s]

def build (kind : Kind) (path : List Segment) : List Segment → List Segment
  | [] => path
  | [s] => add kind true path s
  | s :: t :: rest => build kind (add kind false path s) (t :: rest)

/-- A file path has no empty segments at its start. -/
def tidy (kind : Kind) (path : List Segment) : List Segment :=
  match kind with
  | .file =>
    let rest := path.dropWhile List.isEmpty
    if rest.isEmpty then [[]] else rest
  | _ => path

def isSeparator (kind : Kind) (c : Char) : Bool :=
  c == '/' || (kind.isSpecial && c == '\\')

def split (kind : Kind) (s : List Char) : List Segment :=
  s.splitOnP (isSeparator kind)

def ofText (kind : Kind) (s : List Char) : List Segment :=
  build kind [] ((split kind s).map (percentEncode inPathSet))

/-- Takes away an empty last segment, unless it is the only one. -/
def dropEmptyLast (path : List Segment) : List Segment :=
  if path.length ≥ 2 ∧ path.getLast? = some [] then path.dropLast else path

/-- Tabs and line breaks have no place in a URL. -/
def isIgnored (c : Char) : Bool :=
  c == '\t' || c == '\n' || c == '\r'

/-- Puts a text behind a path as one segment. A text of one or two dots adds nothing. -/
def push (kind : Kind) (path : List Segment) (text : List Char) : List Segment :=
  if text = ['.'] ∨ text = ['.', '.'] then path
  else
    let coded := percentEncode (inSegmentSet kind.isSpecial) (text.filter (fun c => !isIgnored c))
    tidy kind (add kind true (base path) coded)

def print (path : List Segment) : List Char :=
  path.flatMap ('/' :: ·)

end Path

end EpisodeGuide.Url
