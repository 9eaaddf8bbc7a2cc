import EpisodeGuide.Cache.Open
import EpisodeGuide.Proofs.Files.Tree

/-! # Opening a cache again

A cache that was opened on disk opens again at the same path, whatever was written to it since,
and opening it changes nothing on the disk. -/

namespace EpisodeGuide

open Files

variable {path : String} {place : List String} {before made disk : Disk}

theorem Disk.database_putDatabase (disk : Disk) (db : Database) (h : place ≠ []) :
    (disk.putDatabase place db).database place = db := by
  simp [Disk.database, Disk.putDatabase, Tree.node?_put_self disk _ h]

theorem Disk.putDatabase_putDatabase (disk : Disk) (db db' : Database) :
    (disk.putDatabase place db).putDatabase place db' = disk.putDatabase place db' :=
  Tree.put_put disk _ _

theorem Database.prepare_of_table {rows : List Row} {traps : List Trap} :
    Database.prepare ⟨some rows, traps⟩ = ⟨some rows, traps⟩ := rfl

namespace Cache

/-- A database file stands where no directory does. -/
theorem openFile_vacant {name : String} {db : Database} (h : openFile name made place = .ok db) :
    made.isDirectoryAt place.dropLast = true ∧ made.Vacant place := by
  unfold openFile at h
  split at h
  · cases h
  · next hparent =>
      refine ⟨by simpa using hparent, fun hdirectory => ?_⟩
      simp [hdirectory] at h

/-- The directory of a database stays when the database is kept. -/
theorem makeParent_again (h : makeParent path before = (.ok (), made))
    (hvacant : made.Vacant place) (node : Node Content) :
    makeParent path (made.put place node) = (.ok (), made.put place node) := by
  unfold makeParent at h ⊢
  cases hp : parent? path with
  | none => rfl
  | some parent =>
      rw [hp] at h
      by_cases hempty : parent = ""
      · subst hempty
        rfl
      · have hmade : before.createDirectories parent = .ok made := by
          cases hc : before.createDirectories parent with
          | error e => simp [hc] at h
          | ok made' => simpa [hempty, hc] using h
        have hdirectory : (made.put place node).isDirectory parent = true :=
          hvacant.isDirectory_put node (Tree.createDirectories_isDirectory hempty hmade)
        simp [Tree.createDirectories_of_isDirectory hempty hdirectory]

theorem openDatabase_file {name : String} (hnul : nulPosition? path = none)
    (hname : Location.ofName path = .file name) :
    openDatabase path made =
      (openFile path made (normalPlace made.workingDirectory name)).map fun db =>
        (.onDisk (normalPlace made.workingDirectory name),
          made.putDatabase (normalPlace made.workingDirectory name) db.prepare) := by
  simp [openDatabase, hnul, hname]

theorem openDatabase_onDisk (h : openDatabase path made = .ok (.onDisk place, disk)) :
    ∃ name db, nulPosition? path = none ∧ Location.ofName path = .file name ∧
      normalPlace made.workingDirectory name = place ∧ openFile path made place = .ok db ∧
      made.putDatabase place db.prepare = disk := by
  cases hnul : nulPosition? path with
  | some position => simp [openDatabase, hnul] at h
  | none =>
      cases hname : Location.ofName path with
      | memory => simp [openDatabase, hnul, hname] at h
      | file name =>
          rw [openDatabase_file hnul hname] at h
          cases hfile : openFile path made (normalPlace made.workingDirectory name) with
          | error e => simp [hfile, Except.map] at h
          | ok db =>
              obtain ⟨rfl, hdisk⟩ : normalPlace made.workingDirectory name = place ∧
                  made.putDatabase (normalPlace made.workingDirectory name) db.prepare = disk := by
                simpa [hfile, Except.map] using h
              exact ⟨name, db, rfl, rfl, rfl, hfile, hdisk⟩

theorem openAt_eq_ok_iff {cache : Cache} :
    openAt path before = (.ok cache, disk) ↔
      ∃ made, makeParent path before = (.ok (), made) ∧
        openDatabase path made = .ok (cache, disk) := by
  rcases hparent : makeParent path before with ⟨_ | ⟨⟩, made⟩
  · simp [openAt, hparent]
  · cases hopen : openDatabase path made <;> simp [openAt, hparent, hopen, Prod.ext_iff]

/-- Opening a cache on disk again finds what was kept last, and changes nothing. -/
theorem openAt_again (h : openAt path before = (.ok (.onDisk place), disk)) (rows : List Row)
    (traps : List Trap) :
    openAt path (disk.putDatabase place ⟨some rows, traps⟩) =
      (.ok (.onDisk place), disk.putDatabase place ⟨some rows, traps⟩) := by
  obtain ⟨made, hparent, hopen⟩ := openAt_eq_ok_iff.mp h
  obtain ⟨name, db, hnul, hname, hplace, hfile, rfl⟩ := openDatabase_onDisk hopen
  obtain ⟨hdirectory, hvacant⟩ := openFile_vacant hfile
  rw [Disk.putDatabase_putDatabase]
  refine openAt_eq_ok_iff.mpr ⟨_, makeParent_again hparent hvacant _, ?_⟩
  have hkept : openFile path (made.putDatabase place ⟨some rows, traps⟩) place =
      .ok ⟨some rows, traps⟩ := by
    simp [openFile, Disk.putDatabase, hvacant.isDirectoryAt_put _ hdirectory,
      Tree.node?_put_self made _ hvacant.ne_root]
  have hstays : normalPlace (made.putDatabase place ⟨some rows, traps⟩).workingDirectory name =
      place := hplace
  change openDatabase path (made.putDatabase place ⟨some rows, traps⟩) =
    .ok (.onDisk place, made.putDatabase place ⟨some rows, traps⟩)
  rw [openDatabase_file hnul hname, hstays, hkept]
  simp [Except.map, Database.prepare_of_table, Disk.putDatabase_putDatabase]

/-- A cache that has just been opened on disk opens again as it is. -/
theorem openAt_same (h : openAt path before = (.ok (.onDisk place), disk)) :
    openAt path disk = (.ok (.onDisk place), disk) := by
  obtain ⟨made, hparent, hopen⟩ := openAt_eq_ok_iff.mp h
  obtain ⟨name, db, -, -, -, -, hdisk⟩ := openDatabase_onDisk hopen
  have hkept : disk.putDatabase place db.prepare = disk := by
    rw [← hdisk, Disk.putDatabase_putDatabase]
  have hagain := openAt_again h (db.table.getD []) db.traps
  change openAt path (disk.putDatabase place db.prepare) =
    (.ok (.onDisk place), disk.putDatabase place db.prepare) at hagain
  rwa [hkept] at hagain

end Cache

end EpisodeGuide
