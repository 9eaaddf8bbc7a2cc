import EpisodeGuide.Cache.Table

/-!
The database of a cache: a table, which may be missing, and traps that make single changes fail. A
transaction that fails leaves the database as it was.
-/

namespace EpisodeGuide

/-- A change of the table that is made to fail. -/
inductive Trap where
  | delete
  /-- A row that is inserted with the name that springs the trap. -/
  | insert
  deriving DecidableEq, Repr

def Trap.bait : String := "poison"

structure Database where
  /-- The rows, or nothing when there is no table. -/
  table : Option (List Row)
  traps : List Trap
  deriving DecidableEq, Repr

namespace Database

def empty : Database := ⟨none, []⟩

def prepare (db : Database) : Database :=
  { db with table := some (db.table.getD []) }

/-- Drops the table, and the traps on it with it. -/
def dropTable (_ : Database) : Database :=
  empty

def setTrap (trap : Trap) (db : Database) : Database :=
  { db with traps := trap :: db.traps }

def rows (db : Database) : Except StorageFault (List Row) :=
  match db.table with
  | some rows => .ok rows
  | none => .error .noTable

def deleteRows (p : Row → Bool) (db : Database) : Except StorageFault (Nat × Database) := do
  let rows ← db.rows
  let removed := rows.filter p
  if .delete ∈ db.traps ∧ removed ≠ [] then throw .trapped
  return (removed.length, { db with table := some (rows.filter (fun r => !p r)) })

def insertRow (row : Row) (db : Database) : Except StorageFault Database := do
  let rows ← db.rows
  if .insert ∈ db.traps ∧ row.name = .text Trap.bait then throw .trapped
  return { db with table := some (rows ++ [row.store]) }

def insertRows (rows : List Row) (db : Database) : Except StorageFault Database :=
  rows.foldlM (fun db row => db.insertRow row) db

/-- Runs a series of changes as a whole. -/
def transact {α : Type} (change : Database → Except StorageFault (α × Database)) (db : Database) :
    Except StorageFault α × Database :=
  match change db with
  | .ok (result, db) => (.ok result, db)
  | .error fault => (.error fault, db)

end Database

end EpisodeGuide
