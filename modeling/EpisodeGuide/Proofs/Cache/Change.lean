import EpisodeGuide.Cache.Basic
import Mathlib.Data.List.Basic

/-! # Changes of the table

What deleting and inserting rows does to a table that may be missing and may have traps, and with
it what writing and clearing do: the rows are replaced, or there is a reason why they cannot be. -/

namespace EpisodeGuide

namespace Database

/-! ### Changes with traps -/

theorem deleteRows_some (p : Row → Bool) (rows : List Row) (traps : List Trap) :
    deleteRows p ⟨some rows, traps⟩ =
      if .delete ∈ traps ∧ ∃ r ∈ rows, p r = true then .error .trapped
      else .ok ((rows.filter p).length, ⟨some (rows.filter fun r => !p r), traps⟩) := by
  have hfound : (∃ r ∈ rows, p r = true) ↔ rows.filter p ≠ [] := by
    simp [List.filter_eq_nil_iff]
  simp only [hfound]
  by_cases h : .delete ∈ traps ∧ rows.filter p ≠ []
  · rw [if_pos h]
    simp only [deleteRows, Database.rows, bind, Except.bind, if_pos h]
    rfl
  · rw [if_neg h]
    simp only [deleteRows, Database.rows, bind, Except.bind, if_neg h]
    rfl

theorem insertRow_some (row : Row) (rows : List Row) (traps : List Trap) :
    insertRow row ⟨some rows, traps⟩ =
      if .insert ∈ traps ∧ row.name = .text Trap.bait then .error .trapped
      else .ok ⟨some (rows ++ [row.store]), traps⟩ := by
  unfold insertRow
  split <;> rfl

theorem insertRows_some (rows new : List Row) (traps : List Trap) :
    insertRows new ⟨some rows, traps⟩ =
      if .insert ∈ traps ∧ ∃ r ∈ new, r.name = .text Trap.bait then .error .trapped
      else .ok ⟨some (rows ++ new.map Row.store), traps⟩ := by
  induction new generalizing rows with
  | nil =>
      simp only [List.not_mem_nil, false_and, exists_false, and_false, if_false, List.map_nil,
        List.append_nil]
      rfl
  | cons r new ih =>
      rw [insertRows, List.foldlM_cons, insertRow_some]
      by_cases hr : .insert ∈ traps ∧ r.name = .text Trap.bait
      · rw [if_pos hr, if_pos ⟨hr.1, r, List.mem_cons_self .., hr.2⟩]
        rfl
      · rw [if_neg hr]
        -- The first row is in, so only one behind it can spring the trap.
        change insertRows new _ = _
        rw [ih]
        have hiff : (.insert ∈ traps ∧ ∃ x ∈ r :: new, x.name = .text Trap.bait) ↔
            (.insert ∈ traps ∧ ∃ x ∈ new, x.name = .text Trap.bait) := by
          simp only [List.exists_mem_cons_iff, and_or_left, or_iff_right hr]
        simp only [hiff, List.map_cons, List.append_assoc, List.singleton_append]

/-- Why the rows that satisfy `p` cannot be replaced by new ones: there is no table, one of them
cannot be deleted, or one of the new ones cannot be inserted, wherever it stands. -/
def fault? (p : Row → Bool) (new : List Row) (db : Database) : Option StorageFault :=
  match db.table with
  | none => some .noTable
  | some rows =>
    if (.delete ∈ db.traps ∧ ∃ r ∈ rows, p r = true) ∨
        (.insert ∈ db.traps ∧ ∃ r ∈ new, r.name = .text Trap.bait) then some .trapped
    else none

/-- The database with the rows that satisfy `p` replaced by new ones behind the others. -/
def replaced (p : Row → Bool) (new : List Row) (db : Database) : Database :=
  { db with table := some (((db.table.getD []).filter fun r => !p r) ++ new.map Row.store) }

theorem replaceRows_eq_fault (series : String) (new : List Row) (db : Database) :
    replaceRows series new db =
      match db.fault? (Row.isOf series) new with
      | some fault => .error fault
      | none => .ok ((), db.replaced (Row.isOf series) new) := by
  obtain ⟨_ | rows, traps⟩ := db
  · rfl
  · unfold replaceRows
    rw [deleteRows_some]
    by_cases hdelete : .delete ∈ traps ∧ ∃ r ∈ rows, r.isOf series = true
    · simp only [fault?, if_pos hdelete, if_pos (Or.inl hdelete)]
      rfl
    · rw [if_neg hdelete]
      change (insertRows new _ >>= fun db => .ok ((), db)) = _
      rw [insertRows_some]
      by_cases hinsert : .insert ∈ traps ∧ ∃ r ∈ new, r.name = .text Trap.bait
      · simp only [fault?, if_pos hinsert, if_pos (Or.inr hinsert)]
        rfl
      · simp only [fault?, if_neg hinsert, if_neg (not_or.mpr ⟨hdelete, hinsert⟩)]
        rfl

theorem deleteRows_eq_fault (p : Row → Bool) (db : Database) :
    deleteRows p db =
      match db.fault? p [] with
      | some fault => .error fault
      | none => .ok (((db.table.getD []).filter p).length, db.replaced p []) := by
  obtain ⟨_ | rows, traps⟩ := db
  · rfl
  · rw [deleteRows_some]
    by_cases hdelete : .delete ∈ traps ∧ ∃ r ∈ rows, p r = true
    · simp only [fault?, if_pos hdelete, if_pos (Or.inl hdelete)]
    · have hnone : ¬ ((.delete ∈ traps ∧ ∃ r ∈ rows, p r = true) ∨
          (.insert ∈ traps ∧ ∃ r ∈ ([] : List Row), r.name = .text Trap.bait)) := by
        simpa using hdelete
      simp only [fault?, if_neg hdelete, if_neg hnone, replaced, Option.getD_some, List.map_nil,
        List.append_nil]

/-! ### Writing and clearing -/

def newRows (clock : Int) (series : String) (episodes : List Episode) : List Row :=
  episodes.map (Row.ofEpisode series (cacheTime clock))

theorem write_eq_fault (clock : Int) (series : String) (episodes : List Episode)
    (db : Database) :
    db.write clock series episodes =
      match db.fault? (Row.isOf series) (newRows clock series episodes) with
      | some fault => (.error (.queryFailed fault), db)
      | none => (.ok (), db.replaced (Row.isOf series) (newRows clock series episodes)) := by
  unfold write transact
  rw [replaceRows_eq_fault, ← newRows]
  cases db.fault? (Row.isOf series) (newRows clock series episodes) <;> rfl

theorem clear_eq_fault (scope : Option String) (db : Database) :
    db.clear scope =
      match db.fault? (inScope scope) [] with
      | some fault => (.error (.queryFailed fault), db)
      | none => (.ok ((db.table.getD []).filter (inScope scope)).length,
          db.replaced (inScope scope) []) := by
  unfold clear transact
  rw [deleteRows_eq_fault]
  cases db.fault? (inScope scope) [] <;> rfl

end Database

end EpisodeGuide
