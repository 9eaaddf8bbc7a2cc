import EpisodeGuide.Toml.Node
import EpisodeGuide.Toml.Quoted

/-!
Reading of TOML documents: lines with a key and its value, headers of tables, and comments.
Everything that a document holds must be well formed, also what nobody asks for.
-/

namespace EpisodeGuide.Toml

/-- Writes every line break as a single line feed. -/
def unifyBreaks : List Char → List Char
  | '\r' :: '\n' :: r => '\n' :: unifyBreaks r
  | c :: r => c :: unifyBreaks r
  | [] => []

def skipSpaces (s : List Char) : List Char :=
  s.dropWhile isSpace

def skipComment : List Char → Option (List Char)
  | [] => some []
  | '\n' :: r => some ('\n' :: r)
  | c :: r => if isPlain c then skipComment r else none

/-- Drops what may stand between the items of an array: spaces, line breaks, and comments, which a
line break must end. -/
def skipBetween (inComment : Bool) : List Char → Option (List Char)
  | [] => if inComment then none else some []
  | c :: r =>
    if c == '\n' then skipBetween false r
    else if inComment then if isPlain c then skipBetween true r else none
    else if isSpace c then skipBetween false r
    else if c == '#' then skipBetween true r
    else some (c :: r)

/-- Drops the end of a line: spaces, a comment, and the line break unless the text ends. -/
def endLine (s : List Char) : Option (List Char) :=
  match skipSpaces s with
  | [] => some []
  | '\n' :: r => some r
  | '#' :: r => (skipComment r).map (·.drop 1)
  | _ => none

/-! ### Keys -/

def isBareKeyChar (c : Char) : Bool :=
  c.isAlphanum || c == '-' || c == '_'

def takeKeyPart (s : List Char) : Option (String × List Char) :=
  match s with
  | [] => none
  | c :: _ =>
    if c == '"' || c == '\'' then (takeQuoted s).map fun (text, rest) => (String.ofList text, rest)
    else
      let name := s.takeWhile isBareKeyChar
      if name.isEmpty then none else some (String.ofList name, s.dropWhile isBareKeyChar)

def maxKeyParts : Nat := 79

/-- Reads a key of at most `limit` parts with dots in between: the parts before the last, and the
last. -/
def takeKeyParts (limit : Nat) (s : List Char) : Option ((List String × String) × List Char) :=
  match limit with
  | 0 => none
  | limit + 1 =>
    (takeKeyPart (skipSpaces s)).bind fun (part, rest) =>
      match skipSpaces rest with
      | '.' :: rest => (takeKeyParts limit rest).map fun ((path, key), rest) =>
          ((part :: path, key), rest)
      | rest => some (([], part), rest)

def takeKey (s : List Char) : Option ((List String × String) × List Char) :=
  takeKeyParts maxKeyParts s

def takeKeyEquals (s : List Char) : Option ((List String × String) × List Char) :=
  (takeKey s).bind fun (key, rest) => (takeChar '=' rest).map fun rest => (key, skipSpaces rest)

/-! ### Values -/

def takeNumeric (s : List Char) : Option (Node × List Char) :=
  match takeMoment s with
  | some (m, rest) => some (.moment m, rest)
  | none =>
    match takeReal s with
    | some (x, rest) => some (.real x, rest)
    | none => (takeInteger s).map fun (i, rest) => (.integer i, rest)

def takeScalar : List Char → Option (Node × List Char)
  | 't' :: 'r' :: 'u' :: 'e' :: r => some (.bool true, r)
  | 'f' :: 'a' :: 'l' :: 's' :: 'e' :: r => some (.bool false, r)
  | s =>
    match takeText s with
    | some (text, rest) => some (.text (String.ofList text), rest)
    | none => takeNumeric s

def maxDepth : Nat := 79

mutual

/-- Reads a value with at most `room` more levels of nesting, in at most `steps` steps. -/
def takeValue (steps room : Nat) (s : List Char) : Option (Node × List Char) :=
  match steps with
  | 0 => none
  | steps + 1 =>
    match room, s with
    | room + 1, '[' :: r => (takeItems steps room r).map fun (items, rest) => (.array items, rest)
    | room + 1, '{' :: r =>
      match skipSpaces r with
      | '}' :: rest => some (.table .inline [], rest)
      | r => (takeMembers steps room [] r).map fun (ms, rest) => (.table .inline ms, rest)
    | _, s => takeScalar s

/-- Reads the items of an array up to its closing bracket; a comma may stand behind the last. -/
def takeItems (steps room : Nat) (s : List Char) : Option (List Node × List Char) :=
  match steps with
  | 0 => none
  | steps + 1 =>
    (skipBetween false s).bind fun s =>
      match s with
      | ']' :: rest => some ([], rest)
      | s =>
        (takeValue steps room s).bind fun (v, rest) =>
          (skipBetween false rest).bind fun rest =>
            match rest with
            | ',' :: rest => (takeItems steps room rest).map fun (vs, rest) => (v :: vs, rest)
            | ']' :: rest => some ([v], rest)
            | _ => none

def takeMembers (steps room : Nat) (found : Members) (s : List Char) :
    Option (Members × List Char) :=
  match steps with
  | 0 => none
  | steps + 1 =>
    (takeKeyEquals s).bind fun ((path, key), rest) =>
      (takeValue steps room rest).bind fun (v, rest) =>
        (found.addDotted? key v path).bind fun found =>
          match skipSpaces rest with
          | ',' :: rest => takeMembers steps room found rest
          | '}' :: rest => some (found, rest)
          | _ => none

end

/-- Enough steps for a value at the start of `s`: every two steps take a character. -/
def stepBound (s : List Char) : Nat :=
  2 * s.length + 2

/-! ### Lines -/

inductive Line where
  | blank
  | member (path : List String) (key : String) (value : Node)
  | header (path : List String) (key : String)
  | nextHeader (path : List String) (key : String)

def takeLine (s : List Char) : Option (Line × List Char) :=
  match skipSpaces s with
  | [] => some (.blank, [])
  | '\n' :: r => some (.blank, r)
  | '#' :: r => (endLine ('#' :: r)).map (.blank, ·)
  | '[' :: '[' :: r => do
    let ((path, key), r) ← takeKey r
    let r ← takeChar ']' r
    let r ← takeChar ']' r
    let r ← endLine r
    return (.nextHeader path key, r)
  | '[' :: r => do
    let ((path, key), r) ← takeKey r
    let r ← takeChar ']' r
    let r ← endLine r
    return (.header path key, r)
  | s => do
    let ((path, key), r) ← takeKeyEquals s
    let (v, r) ← takeValue (stepBound r) maxDepth r
    let r ← endLine r
    return (.member path key v, r)

/-- The members of a document so far, and the header whose table is open. -/
structure State where
  root : Members
  table : List String

def State.add? (st : State) : Line → Option State
  | .blank => some st
  | .member path key v =>
    (Members.under? (Members.addDotted? key v path) st.table st.root).map
      fun root => { st with root := root }
  | .header path key => (Members.openTable? path key st.root).map fun root => ⟨root, path ++ [key]⟩
  | .nextHeader path key => (Members.openNextTable? path key st.root).map
      fun root => ⟨root, path ++ [key]⟩

def readLines (count : Nat) (st : State) (s : List Char) : Option State :=
  match count with
  | 0 => none
  | count + 1 =>
    match s with
    | [] => some st
    | s => (takeLine s).bind fun (line, rest) =>
        (st.add? line).bind fun st => readLines count st rest

/-- A mark at the start of a text that says how it is coded. -/
def dropMark : List Char → List Char
  | c :: r => if c.toNat = 0xFEFF then r else c :: r
  | [] => []

def membersOfText? (s : String) : Option Members :=
  let text := unifyBreaks (dropMark s.toList)
  (readLines (text.length + 1) ⟨[], []⟩ text).map (·.root)

end EpisodeGuide.Toml
