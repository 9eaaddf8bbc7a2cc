import EpisodeGuide.Proofs.Cache.Transaction
import EpisodeGuide.Catalog.Open

/-! # Rows that are stored on a disk

Opening a cache may make directories and set up a table, but no row that is stored on the disk comes
or goes. A row is read by the caches that are opened at a path to its place. -/

namespace EpisodeGuide

open Files

namespace Files.Tree

variable {α : Type} {t made made' : Tree α} {path : String}

/-! ### Directories beside files -/

/-- The same files stand in both trees. -/
def SameFiles (t made : Tree α) : Prop :=
  ∀ place content, made.node? place = some (.file content) ↔ t.node? place = some (.file content)

theorem SameFiles.refl (t : Tree α) : t.SameFiles t :=
  fun _ _ => Iff.rfl

theorem SameFiles.trans (h : t.SameFiles made) (h' : made.SameFiles made') : t.SameFiles made' :=
  fun place content => (h' place content).trans (h place content)

theorem ensureDirectory_sameFiles (h : t.ensureDirectory path = .ok made) : t.SameFiles made := by
  unfold ensureDirectory at h
  split at h
  · next made' hmake =>
      obtain rfl : made' = made := Except.ok.inj h
      obtain ⟨target, -, hnone, rfl⟩ := makeDirectory_eq_ok_iff.mp hmake
      intro place content
      by_cases hplace : place = target
      · subst hplace
        have hroot : place ≠ [] := by
          rintro rfl
          cases hnone
        simp [node?_put_self t .directory hroot, hnone]
      · rw [node?_put_ne t .directory hplace]
  · split at h
    · obtain rfl : t = made := Except.ok.inj h
      exact .refl t
    · cases h

theorem ensureChain_sameFiles {paths : List String} (h : t.ensureChain paths = .ok made) :
    t.SameFiles made := by
  induction paths generalizing made with
  | nil =>
      obtain rfl : t = made := Except.ok.inj h
      exact .refl t
  | cons path parents ih =>
      rw [ensureChain] at h
      split at h
      · cases hparents : t.ensureChain parents with
        | error e =>
            rw [hparents] at h
            cases h
        | ok made' =>
            rw [hparents] at h
            exact (ih hparents).trans (ensureDirectory_sameFiles h)
      · exact ensureDirectory_sameFiles h

end Files.Tree

/-! ### Rows at a place -/

/-- The rows that are stored at a place; none where there is no database. -/
def Disk.storedRows (disk : Disk) (place : List String) : List Row :=
  (disk.database place).table.getD []

section

variable {path : String} {place target : List String} {before made disk : Disk}

theorem Disk.storedRows_of_sameFiles (h : Tree.SameFiles disk made) (place : List String) :
    made.storedRows place = disk.storedRows place := by
  have hdatabase : made.database place = disk.database place := by
    have hfile := h place
    rcases hmade : made.node? place with _ | _ | content
    case some.file => simp [Disk.database, hmade, (hfile content).mp hmade]
    all_goals
      -- No file stands here, and none stood here before.
      rcases hdisk : disk.node? place with _ | _ | content
      case some.file => simp [(hfile content).mpr hdisk] at hmade
      all_goals simp [Disk.database, hmade, hdisk]
  rw [storedRows, storedRows, hdatabase]

theorem Disk.storedRows_putDatabase_self (disk : Disk) (db : Database) (h : place ≠ []) :
    (disk.putDatabase place db).storedRows place = db.table.getD [] := by
  rw [storedRows, database_putDatabase disk db h]

theorem Disk.storedRows_putDatabase_ne (disk : Disk) (db : Database) (h : target ≠ place) :
    (disk.putDatabase place db).storedRows target = disk.storedRows target := by
  simp [storedRows, Disk.database, putDatabase, Tree.node?_put_ne disk _ h]

namespace Cache

theorem storedRows_makeParent {result : Except CacheError Unit}
    (h : makeParent path before = (result, made)) (place : List String) :
    made.storedRows place = before.storedRows place := by
  unfold makeParent at h
  split at h
  · rw [← (Prod.mk.inj h).2]
  · rw [← (Prod.mk.inj h).2]
  · split at h
    · next hmade =>
        rw [← (Prod.mk.inj h).2]
        exact Disk.storedRows_of_sameFiles (Tree.ensureChain_sameFiles hmade) place
    · rw [← (Prod.mk.inj h).2]

/-- The file that is opened holds the rows that are stored at its place. -/
theorem rows_openFile {name : String} {db : Database} (h : openFile name made place = .ok db) :
    db.table.getD [] = made.storedRows place := by
  unfold openFile at h
  split at h
  · cases h
  · rw [Disk.storedRows, Disk.database]
    split at h <;> cases h <;> simp_all [Database.empty]

theorem openDatabase_unshared {db : Database}
    (h : openDatabase path made = .ok (.unshared db, disk)) :
    Location.ofName path = .memory ∧ db = Database.empty.prepare ∧ disk = made := by
  cases hnul : nulPosition? path with
  | some position => simp [openDatabase, hnul] at h
  | none =>
      cases hname : Location.ofName path with
      | memory =>
          obtain ⟨rfl, rfl⟩ : Database.empty.prepare = db ∧ made = disk := by
            simpa [openDatabase, hnul, hname] using h
          exact ⟨rfl, rfl, rfl⟩
      | file name =>
          rw [openDatabase_file hnul hname] at h
          cases hfile : openFile path made (normalPlace made.workingDirectory name) <;>
            simp [hfile, Except.map] at h

/-- Setting up a table where none is stores no row. -/
theorem storedRows_openDatabase {cache : Cache} (h : openDatabase path made = .ok (cache, disk))
    (target : List String) : disk.storedRows target = made.storedRows target := by
  cases cache with
  | unshared db => rw [(openDatabase_unshared h).2.2]
  | onDisk place =>
      obtain ⟨name, db, -, -, -, hfile, rfl⟩ := openDatabase_onDisk h
      by_cases htarget : target = place
      · subst htarget
        rw [Disk.storedRows_putDatabase_self made _ (openFile_vacant hfile).2.ne_root,
          ← rows_openFile hfile]
        rfl
      · exact Disk.storedRows_putDatabase_ne made _ htarget

/-- Opening a cache, whether it succeeds or not, leaves the rows that are stored. -/
theorem storedRows_openAt (path : String) (before : Disk) (target : List String) :
    (openAt path before).2.storedRows target = before.storedRows target := by
  rcases hparent : makeParent path before with ⟨_ | ⟨⟩, made⟩
  · simpa [openAt, hparent] using storedRows_makeParent hparent target
  · rw [← storedRows_makeParent hparent target]
    cases hopen : openDatabase path made with
    | error fault => simp [openAt, hparent, hopen]
    | ok opened => simpa [openAt, hparent, hopen] using storedRows_openDatabase hopen target

/-- A cache that is opened again holds no other rows than those that were kept. -/
theorem exists_table_of_openAt_keep {cache cache' : Cache} {disk' : Disk} {rows : List Row}
    {traps : List Trap} (h : openAt path before = (.ok cache, disk))
    (h' : openAt path (cache.keep ⟨some rows, traps⟩ disk).2 = (.ok cache', disk')) :
    ∃ found, (cache'.database disk').table = some found ∧ ∀ r ∈ found, r ∈ rows := by
  cases cache with
  | onDisk place =>
      obtain ⟨rfl, rfl⟩ : .onDisk place = cache' ∧
          disk.putDatabase place ⟨some rows, traps⟩ = disk' := by
        simpa [keep, openAt_again h] using h'
      obtain ⟨made, -, hopen⟩ := openAt_eq_ok_iff.mp h
      obtain ⟨_, _, -, -, -, hfile, -⟩ := openDatabase_onDisk hopen
      refine ⟨rows, ?_, fun r hr => hr⟩
      simp only [database]
      rw [Disk.database_putDatabase disk _ (openFile_vacant hfile).2.ne_root]
  | unshared db =>
      obtain ⟨made, -, hopen⟩ := openAt_eq_ok_iff.mp h
      obtain ⟨made', -, hopen'⟩ := openAt_eq_ok_iff.mp h'
      obtain ⟨hmemory, -, -⟩ := openDatabase_unshared hopen
      -- The name leads to memory, so the second cache is as empty as the first one was.
      cases cache' with
      | unshared db' =>
          obtain ⟨-, rfl, -⟩ := openDatabase_unshared hopen'
          exact ⟨[], rfl, fun r hr => absurd hr List.not_mem_nil⟩
      | onDisk place =>
          obtain ⟨name, -, -, hname, -⟩ := openDatabase_onDisk hopen'
          rw [hmemory] at hname
          cases hname

end Cache

end

end EpisodeGuide
