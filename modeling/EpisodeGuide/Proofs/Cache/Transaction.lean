import EpisodeGuide.Proofs.Cache.Reopening
import EpisodeGuide.Proofs.Cache.Shelf

/-! # Transactions all or nothing

A transaction makes all of its changes or none. Whichever change fails, and for whatever reason,
the database stays as it was, and so does the disk that it is kept on. -/

namespace EpisodeGuide

namespace Database

variable {db : Database}

/-! ### Writing and clearing -/

theorem write_of_error {clock : Int} {series : String} {episodes : List Episode} {e : CacheError}
    (h : (db.write clock series episodes).1 = .error e) :
    (db.write clock series episodes).2 = db := by
  rw [write_eq_fault] at h ⊢
  cases hfault : db.fault? (Row.isOf series) (newRows clock series episodes) with
  | none => simp [hfault] at h
  | some fault => rfl

theorem write_of_ok {clock : Int} {series : String} {episodes : List Episode}
    (h : (db.write clock series episodes).1 = .ok ()) :
    (db.write clock series episodes).2 =
      db.replaced (Row.isOf series) (newRows clock series episodes) := by
  rw [write_eq_fault] at h ⊢
  cases hfault : db.fault? (Row.isOf series) (newRows clock series episodes) with
  | none => rfl
  | some fault => simp [hfault] at h

theorem clear_of_error {scope : Option String} {e : CacheError}
    (h : (db.clear scope).1 = .error e) : (db.clear scope).2 = db := by
  rw [clear_eq_fault] at h ⊢
  cases hfault : db.fault? (inScope scope) [] with
  | none => simp [hfault] at h
  | some fault => rfl

theorem clear_of_ok {scope : Option String} {removed : ℕ}
    (h : (db.clear scope).1 = .ok removed) :
    (db.clear scope).2 = db.replaced (inScope scope) [] := by
  rw [clear_eq_fault] at h ⊢
  cases hfault : db.fault? (inScope scope) [] with
  | none => rfl
  | some fault => simp [hfault] at h

/-! ### Reading what was written -/

section Reading

variable {clock clock' : Int} {series : String} {episodes : List Episode}

theorem store_newRows :
    (newRows clock series episodes).map Row.store = newRows clock series episodes := by
  simp [newRows, Function.comp_def, Row.store_ofEpisode]

theorem isOf_newRows : ∀ r ∈ newRows clock series episodes, r.isOf series = true := by
  intro r hr
  obtain ⟨e, -, rfl⟩ := List.mem_map.mp hr
  simp [Row.isOf_ofEpisode]

/-- The rows of a series that is replaced are the new ones. -/
theorem filter_replaced (clock : Int) (series : String) (episodes : List Episode) (db : Database) :
    ((db.replaced (Row.isOf series) (newRows clock series episodes)).table.getD []).filter
      (Row.isOf series) = newRows clock series episodes := by
  have hothers :
      ((db.table.getD []).filter fun r => !r.isOf series).filter (Row.isOf series) = [] := by
    simp [List.filter_filter]
  have hnew : (newRows clock series episodes).filter (Row.isOf series) =
      newRows clock series episodes := List.filter_eq_self.mpr isOf_newRows
  simp [replaced, store_newRows, hothers, hnew]

/-- The rows of all other series stay. -/
theorem filter_not_replaced (db : Database) :
    ((db.replaced (Row.isOf series) (newRows clock series episodes)).table.getD []).filter
      (fun r => !r.isOf series) = (db.table.getD []).filter fun r => !r.isOf series := by
  have hnew : (newRows clock series episodes).filter (fun r => !r.isOf series) = [] :=
    List.filter_eq_nil_iff.mpr fun r hr => by simp [isOf_newRows r hr]
  simp [replaced, store_newRows, List.filter_filter, hnew]

theorem filter_not_write (db : Database) :
    ((db.write clock series episodes).2.table.getD []).filter (fun r => !r.isOf series) =
      (db.table.getD []).filter fun r => !r.isOf series := by
  cases h : (db.write clock series episodes).1 with
  | error e => rw [write_of_error h]
  | ok => rw [write_of_ok h, filter_not_replaced]

/-- A list is read as it was written, in order, for one day. -/
theorem read_written (h : (db.write clock series episodes).1 = .ok ()) (hne : episodes ≠ [])
    (hage : clock' ≤ clock + 86400) :
    (db.write clock series episodes).2.read clock' series =
      .hit (Episode.sorted (episodes.map (Episode.under series))) := by
  have hyoung : ¬ cacheLifetime < cacheTime clock' - cacheTime clock := by
    unfold cacheLifetime cacheTime
    omega
  have hload : ((newRows clock series episodes).mergeSort (fun a b => a.order b != .gt)).mapM
      (Row.decode series) = .ok ((Episode.sorted (episodes.map (Episode.under series))).map
        fun e => (e, cacheTime clock)) := Holding.load_eq ⟨series, clock, episodes⟩
  have hfilter := filter_replaced clock series episodes db
  simp only [replaced, Option.getD_some] at hfilter
  rw [write_of_ok h]
  simp only [read, replaced, Database.rows, Except.bind, Table.load, Table.rowsOf, hfilter, hload]
  rw [judge_sameAge, if_neg (by simpa [Episode.sorted_eq_nil_iff] using hne), if_neg hyoung]

end Reading

/-! ### Changes that fail for reasons of their own -/

/-- A change of the table, or the reason why it fails. -/
abbrev Change := Database → Except StorageFault Database

/-- The change, where it does not fail for a reason of its own. -/
def MayFail {α : Type} (change change' : Database → Except StorageFault α) : Prop :=
  ∀ db, change' db = change db ∨ ∃ fault, change' db = .error fault

def applyAll (changes : List Change) (db : Database) : Except StorageFault (Unit × Database) :=
  (changes.foldlM (fun db (change : Change) => change db) db).map fun db => ((), db)

/-- The changes of a transaction that replaces the rows of a series. It begins and is committed
with changes of nothing. -/
def replacement (series : String) (new : List Row) : List Change :=
  [.ok, fun db => (db.deleteRows (Row.isOf series)).map Prod.snd] ++ new.map insertRow ++ [.ok]

theorem applyAll_replacement (series : String) (new : List Row) :
    applyAll (replacement series new) = replaceRows series new := by
  funext db
  simp only [applyAll, replacement, replaceRows, List.foldlM_append, List.foldlM_cons,
    List.foldlM_nil, List.foldlM_map, insertRows, bind, Except.bind, pure, Except.pure]
  cases hdelete : db.deleteRows (Row.isOf series) with
  | error fault => rfl
  | ok result =>
      simp only [Except.map]
      cases new.foldlM (fun db row => db.insertRow row) result.2 <;> rfl

theorem applyAll_mayFail {changes changes' : List Change}
    (h : List.Forall₂ MayFail changes changes') :
    MayFail (applyAll changes) (applyAll changes') := by
  induction h with
  | nil => exact fun db => .inl rfl
  | @cons change change' changes changes' hchange _ ih =>
      intro db
      rcases hchange db with hsame | ⟨fault, hfault⟩
      · simp only [applyAll, List.foldlM_cons, hsame]
        -- A change that fails anyway ends both lists; otherwise the rest decides.
        cases hdb : change db with
        | error fault => exact .inl rfl
        | ok db' => exact ih db'
      · refine .inr ⟨fault, ?_⟩
        simp only [applyAll, List.foldlM_cons, hfault]
        rfl

/-- Whatever fails within a transaction, the database is as before. -/
theorem transact_mayFail {α : Type} {change change' : Database → Except StorageFault (α × Database)}
    (h : MayFail change change') (db : Database) :
    db.transact change' = db.transact change ∨
      ∃ fault, db.transact change' = (.error fault, db) := by
  rcases h db with hsame | ⟨fault, hfault⟩
  · exact .inl (by rw [transact, hsame, transact])
  · exact .inr ⟨fault, by rw [transact, hfault]⟩

end Database

/-! ### Caches in use -/

namespace Cache

/-- The caches that are opened at a path, or in memory, and keep one database after the other. -/
inductive InUse (path : String) : Cache → Disk → Prop where
  | opened {before cache disk} : openAt path before = (.ok cache, disk) → InUse path cache disk
  | inMemory (disk) : InUse path inMemory disk
  | kept {cache disk} (db) :
      InUse path cache disk → InUse path (cache.keep db disk).1 (cache.keep db disk).2

theorem InUse.placed {path : String} {cache : Cache} {disk : Disk} (h : InUse path cache disk)
    {place : List String} (hplace : cache = .onDisk place) :
    place ≠ [] ∧ ∃ made db, disk = Disk.putDatabase made place db := by
  induction h with
  | opened hopen =>
      subst hplace
      obtain ⟨made, -, hdatabase⟩ := openAt_eq_ok_iff.mp hopen
      obtain ⟨name, db, -, -, -, hfile, hdisk⟩ := openDatabase_onDisk hdatabase
      exact ⟨(openFile_vacant hfile).2.ne_root, made, db.prepare, hdisk.symm⟩
  | inMemory => cases hplace
  | @kept cache disk db _ ih =>
      cases cache with
      | unshared => cases hplace
      | onDisk place' =>
          obtain rfl : place' = place := Cache.onDisk.inj hplace
          exact ⟨(ih rfl).1, disk, db, rfl⟩

/-- Keeping the database that is there changes nothing. -/
theorem InUse.keep_database {path : String} {cache : Cache} {disk : Disk}
    (h : InUse path cache disk) : cache.keep (cache.database disk) disk = (cache, disk) := by
  cases cache with
  | unshared => rfl
  | onDisk place =>
      -- The database was put on the disk last, so putting it there again is no change.
      obtain ⟨hroot, made, db, rfl⟩ := h.placed rfl
      simp [keep, database, Disk.database_putDatabase made db hroot, Disk.putDatabase_putDatabase]

end Cache

end EpisodeGuide
