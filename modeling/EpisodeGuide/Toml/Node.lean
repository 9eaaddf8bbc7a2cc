import EpisodeGuide.Toml.Moment
import EpisodeGuide.Toml.Number

/-!
Nodes of a TOML document and the rules by which tables grow. A table remembers how it came to be,
since that decides who may add to it: a header opens a table once, a dotted key adds only to tables
that dotted keys made, and an inline table is complete.
-/

namespace EpisodeGuide.Toml

/-- How a table came to be. -/
inductive Origin where
  | header
  /-- By the header of a table below it. -/
  | path
  | dotted
  | inline
  deriving DecidableEq, Repr

inductive Node where
  | text (s : String)
  | integer (i : Int)
  | real (x : RealNumber)
  | bool (b : Bool)
  | moment (m : Moment)
  | array (items : List Node)
  | table (origin : Origin) (members : List (String × Node))
  /-- The tables of repeated headers, the last one first. -/
  | tables (last : List (String × Node)) (earlier : List (List (String × Node)))

abbrev Members := List (String × Node)

namespace Members

def get? (key : String) (ms : Members) : Option Node :=
  (ms.find? (fun m => m.1 == key)).map Prod.snd

def set (key : String) (node : Node) (ms : Members) : Members :=
  if (ms.get? key).isSome then ms.map (fun m => if m.1 == key then (key, node) else m)
  else ms ++ [(key, node)]

def add? (key : String) (node : Node) (ms : Members) : Option Members :=
  if (ms.get? key).isSome then none else some (ms ++ [(key, node)])

/-- Adds a value under a dotted key: `path` are its parts before the last. The table that holds the
value must have been made by dotted keys, unless there is no dot. -/
def addDotted? (key : String) (node : Node) : List String → Members → Option Members
  | [], ms => ms.add? key node
  | part :: path, ms =>
    match ms.get? part with
    | none => (addDotted? key node path []).map (fun sub => ms ++ [(part, .table .dotted sub)])
    | some (.table .dotted sub) =>
      (addDotted? key node path sub).map (fun sub => ms.set part (.table .dotted sub))
    | some (.table .path sub) =>
      if path = [] then none
      else (addDotted? key node path sub).map (fun sub => ms.set part (.table .path sub))
    | some (.tables last earlier) =>
      if path = [] then none
      else (addDotted? key node path last).map (fun last => ms.set part (.tables last earlier))
    | some _ => none

/-- Changes the members that a header path leads to; of repeated tables, those of the last. Missing
tables on the way come into being. -/
def under? (change : Members → Option Members) : List String → Members → Option Members
  | [], ms => change ms
  | part :: path, ms =>
    match ms.get? part with
    | none => (under? change path []).map (fun sub => ms ++ [(part, .table .path sub)])
    | some (.table .inline _) => none
    | some (.table origin sub) => (under? change path sub).map
        (fun sub => ms.set part (.table origin sub))
    | some (.tables last earlier) =>
      (under? change path last).map (fun last => ms.set part (.tables last earlier))
    | some _ => none

/-- Opens the table of a header. Only a table that is there merely for tables below it can still be
opened. -/
def openTable? (path : List String) (key : String) : Members → Option Members :=
  under? (fun ms =>
    match ms.get? key with
    | none => some (ms ++ [(key, .table .header [])])
    | some (.table .path sub) => some (ms.set key (.table .header sub))
    | some _ => none) path

def openNextTable? (path : List String) (key : String) : Members → Option Members :=
  under? (fun ms =>
    match ms.get? key with
    | none => some (ms ++ [(key, .tables [] [])])
    | some (.tables last earlier) => some (ms.set key (.tables [] (last :: earlier)))
    | some _ => none) path

end Members

end EpisodeGuide.Toml
