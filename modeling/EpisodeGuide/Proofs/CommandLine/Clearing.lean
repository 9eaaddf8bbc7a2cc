import EpisodeGuide.Http.Wire
import EpisodeGuide.Proofs.Cache.Stored
import EpisodeGuide.Proofs.Catalog.Degradation
import EpisodeGuide.Proofs.CommandLine.Listing
import EpisodeGuide.Proofs.Text.Blank

/-! # Clearing a series from the command line

White space around the series does not count when it is cleared, but it does when it is listed. A
series without any is not served any more from the rows that were stored before it was cleared. -/

namespace EpisodeGuide

/-! ### Where settings have the cache -/

def Config.cachePath? (config : Config) (surroundings : Surroundings) : Option String :=
  config.databasePath.or surroundings.cachePath

theorem Config.openCache_eq (config : Config) (surroundings : Surroundings) (disk : Disk) :
    config.openCache surroundings disk =
      match config.cachePath? surroundings with
      | none => (.error (.cache .directoryNotFound), disk)
      | some path => (Cache.openAt path disk).map (·.mapError .cache) id := by
  unfold Config.openCache Config.cachePath?
  cases config.databasePath with
  | some path => rfl
  | none => cases surroundings.cachePath <;> rfl

/-- Rows are stored neither by opening the cache nor by failing to. -/
theorem Config.storedRows_openCache (config : Config) (surroundings : Surroundings) (disk : Disk)
    (place : List String) :
    (config.openCache surroundings disk).2.storedRows place = disk.storedRows place := by
  rw [Config.openCache_eq]
  cases config.cachePath? surroundings with
  | none => rfl
  | some path => exact Cache.storedRows_openAt path disk place

/-- A table without rows of a series has no list for it. -/
theorem Database.read_of_no_rows {db : Database} {rows : List Row} {clock : Int} {series : String}
    (htable : db.table = some rows) (h : ∀ r ∈ rows, r.isOf series = false) :
    db.read clock series = .absent := by
  have hnone : rows.filter (Row.isOf series) = [] :=
    List.filter_eq_nil_iff.mpr fun r hr => by simp [h r hr]
  simp only [Database.read, Database.rows, htable, Except.bind, Table.load, Table.rowsOf, hnone,
    List.mergeSort_nil]
  rfl

namespace CommandLine

variable {σ : Type} {send : Http.Transport σ} {i : Invocation} {w : World σ} {config : Config}
  {library : Library (Session σ)}

theorem Opens.openAt (h : Opens i w config library) :
    ∃ path, config.cachePath? w.surroundings = some path ∧
      Cache.openAt path w.disk = (.ok library.cache, library.disk) := by
  obtain ⟨-, hlibrary⟩ := h
  unfold Library.ofConfig at hlibrary
  rw [Config.openCache_eq] at hlibrary
  cases hpath : config.cachePath? w.surroundings with
  | none => simp [hpath] at hlibrary
  | some path =>
      rcases hopen : Cache.openAt path w.disk with ⟨_ | cache, disk⟩
      · simp [hpath, hopen, Except.mapError] at hlibrary
      · obtain rfl : ⟨cache, disk, ⟨config.client, w.link, []⟩, []⟩ = library := by
          simpa [hpath, hopen, Except.mapError] using hlibrary
        exact ⟨path, rfl, hopen⟩

theorem Opens.storedRows (h : Opens i w config library) (place : List String) :
    library.disk.storedRows place = w.disk.storedRows place := by
  obtain ⟨path, -, hopen⟩ := h.openAt
  rw [← Cache.storedRows_openAt path w.disk place, hopen]

/-- Without a catalog an invocation leaves all rows. -/
theorem storedRows_runInvocation_of_not_opens (h : ¬ ∃ config library, Opens i w config library)
    (place : List String) :
    (runInvocation send i w).2.1.storedRows place = w.disk.storedRows place := by
  cases hconfig : loadConfig i w with
  | error e => simp [runInvocation, hconfig]
  | ok config =>
      have hrows := config.storedRows_openCache w.surroundings w.disk place
      rcases hopen : config.openCache w.surroundings w.disk with ⟨_ | cache, disk⟩
      · rw [hopen] at hrows
        simpa [runInvocation, hconfig, Library.ofConfig, hopen] using hrows
      · exact (h ⟨config, ⟨cache, disk, ⟨config.client, w.link, []⟩, []⟩, hconfig, by
          simp [Library.ofConfig, hopen]⟩).elim

/-! ### The command -/

theorem nonBlank?_clearTarget (series : Option String) :
    Text.nonBlank? (clearTarget series) = clearTarget series := by
  cases series with
  | none => rfl
  | some s =>
      cases hs : Text.isBlank s with
      | true => simp [clearTarget, Text.nonBlank?, Option.filter, hs]
      | false => simp [clearTarget, Text.nonBlank?, Option.filter, hs, Text.isBlank_trim hs]

theorem clearTarget_of_not_blank {series : String} (h : Text.isBlank series = false) :
    clearTarget (some series) = some (Text.trim series) := by
  simp [clearTarget, Text.nonBlank?, Option.filter, h]

/-- A clearance that is reported took the rows of its target and no others. -/
theorem perform_clear_of_success {clock : Int} {series : Option String}
    (h : (perform send clock library (.clear series)).1.exitCode = 0) :
    (perform send clock library (.clear series)).2.disk =
      (library.cache.keep (library.catalog.cache.replaced
        (Database.inScope (clearTarget series)) []) library.disk).2 := by
  rcases hclear : library.catalog.cache.clear (clearTarget series) with ⟨_ | removed, db⟩
  · simp [perform, Library.run, Catalog.clear, nonBlank?_clearTarget, hclear, Report.failure] at h
  · have hok : (library.catalog.cache.clear (clearTarget series)).1 = .ok removed :=
      congrArg Prod.fst hclear
    have hdb := Database.clear_of_ok hok
    rw [hclear] at hdb
    simp [perform, Library.run, Catalog.clear, nonBlank?_clearTarget, hclear, Catalog.note, ← hdb]

theorem perform_clear_of_failure {path : String} {clock : Int} {series : Option String}
    (huse : library.cache.InUse path library.disk)
    (h : (perform send clock library (.clear series)).1.exitCode ≠ 0) :
    (perform send clock library (.clear series)).1.output = "" ∧
      (perform send clock library (.clear series)).2.disk = library.disk := by
  rcases hclear : library.catalog.cache.clear (clearTarget series) with ⟨e | removed, db⟩
  · have herror : (library.catalog.cache.clear (clearTarget series)).1 = .error e :=
      congrArg Prod.fst hclear
    have hdb := Database.clear_of_error herror
    obtain rfl : db = library.catalog.cache := by simpa [hclear] using hdb
    have hrun : library.run (Catalog.clear (clearTarget series)) =
        (false, ⟨library.cache, library.disk, library.source,
          library.log ++ [.clearFailed e]⟩) := by
      refine Library.run_of_same huse ?_
      simp only [Catalog.clear, nonBlank?_clearTarget, hclear]
      rfl
    simp [perform, hrun, Report.failure]
  · simp [perform, Library.run, Catalog.clear, nonBlank?_clearTarget, hclear, Catalog.note,
      Report.success] at h

/-- A list that is not in the cache is printed as the source hands it out. -/
theorem perform_episodes_of_absent {clock : Int} {series : String} {json : Bool}
    (hb : Text.isBlank series = false) (h : library.catalog.cache.read clock series = .absent) :
    (perform send clock library (.episodes series false json)).1 =
      .success ((if json then jsonListing else listing)
        (library.catalog.asked (Session.source send clock) series)) := by
  have hasks : library.catalog.Asks clock series false := .inr (by simp [h])
  cases json <;> simp [perform, Library.run, Catalog.get_of_asks hb hasks]

/-- Runs that clear a series. A run that succeeds takes the rows of the series without the white
space around it, where the settings have the cache, and no others; a run that lists that series next
asks for it. A run that fails prints nothing and takes no row. -/
structure ClearingSpec (send : Http.Transport σ) : Prop where
  cleared : ∀ arguments w i series, read arguments = .ok i → i.command = .clear (some series) →
    Text.isBlank series = false → (run send arguments w).1.exitCode = 0 →
    ∃ config library, Opens i w config library ∧ ∀ place,
      (library.cache = .onDisk place → (run send arguments w).2.1.storedRows place =
        (w.disk.storedRows place).filter fun r => !r.isOf (Text.trim series)) ∧
      (library.cache ≠ .onDisk place →
        (run send arguments w).2.1.storedRows place = w.disk.storedRows place)
  relisted : ∀ arguments w i config library series, read arguments = .ok i →
    i.command = .clear (some series) → Text.isBlank series = false →
    (run send arguments w).1.exitCode = 0 → Opens i w config library →
    ∀ arguments' w' i' config' library' json, read arguments' = .ok i' →
      i'.command = .episodes (Text.trim series) false json →
      w'.disk = (run send arguments w).2.1 →
      config'.cachePath? w'.surroundings = config.cachePath? w.surroundings →
      Opens i' w' config' library' →
      (run send arguments' w').1 = .success ((if json then jsonListing else listing)
        (library'.catalog.asked (Session.source send w'.clock) (Text.trim series)))
  failed : ∀ arguments w i series, read arguments = .ok i → i.command = .clear (some series) →
    Text.isBlank series = false → (run send arguments w).1.exitCode ≠ 0 →
    (run send arguments w).1.output = "" ∧ ∀ place,
      (run send arguments w).2.1.storedRows place = w.disk.storedRows place

/-- The disk that a run leaves when it clears a series. -/
theorem run_clear_of_opens {arguments : List String} {series : String}
    (hread : read arguments = .ok i) (hcommand : i.command = .clear (some series))
    (hb : Text.isBlank series = false) (hexit : (run send arguments w).1.exitCode = 0)
    (hopens : Opens i w config library) :
    (run send arguments w).2.1 = (library.cache.keep (library.catalog.cache.replaced
      (Row.isOf (Text.trim series)) []) library.disk).2 := by
  simp only [run, hread, runInvocation_of_opens hopens, hcommand] at hexit ⊢
  rw [perform_clear_of_success hexit, clearTarget_of_not_blank hb]
  rfl

theorem exists_opens_of_success (h : (runInvocation send i w).1.exitCode = 0) :
    ∃ config library, Opens i w config library := by
  by_contra hnone
  rw [(runInvocation_of_not_opens hnone).1] at h
  cases h

/-- Over any transport, clearing a series clears it without the white space around it. -/
theorem run_clearingSpec (send : Http.Transport σ) : ClearingSpec send where
  cleared := by
    intro arguments w i series hread hcommand hb hexit
    have hexit' := hexit
    simp only [run, hread] at hexit'
    obtain ⟨config, library, hopens⟩ := exists_opens_of_success hexit'
    refine ⟨config, library, hopens, fun place => ?_⟩
    rw [run_clear_of_opens hread hcommand hb hexit hopens, ← hopens.storedRows place]
    obtain ⟨path, -, hopen⟩ := hopens.openAt
    have huse : library.cache.InUse path library.disk := .opened hopen
    constructor
    · intro hplace
      simp only [Library.catalog, hplace, Cache.keep, Cache.database,
        Disk.storedRows_putDatabase_self _ _ (huse.placed hplace).1, Database.replaced,
        Option.getD_some, List.map_nil, List.append_nil]
      rfl
    · intro hplace
      cases hcache : library.cache with
      | unshared db => rfl
      | onDisk place' =>
          rw [hcache] at hplace
          exact Disk.storedRows_putDatabase_ne _ _ fun heq => hplace (heq ▸ rfl)
  relisted := by
    intro arguments w i config library series hread hcommand hb hexit hopens
      arguments' w' i' config' library' json hread' hcommand' hdisk hpath hopens'
    obtain ⟨path, hsome, hopen⟩ := hopens.openAt
    obtain ⟨path', hsome', hopen'⟩ := hopens'.openAt
    obtain rfl : path' = path := Option.some.inj (hsome'.symm.trans (hpath.trans hsome))
    rw [hdisk, run_clear_of_opens hread hcommand hb hexit hopens] at hopen'
    obtain ⟨found, htable, hfound⟩ := Cache.exists_table_of_openAt_keep hopen hopen'
    have habsent : library'.catalog.cache.read w'.clock (Text.trim series) = .absent := by
      refine Database.read_of_no_rows htable fun r hr => ?_
      have hkept := hfound r hr
      rw [List.map_nil, List.append_nil, List.mem_filter] at hkept
      simpa using hkept.2
    simp only [run, hread', runInvocation_of_opens hopens', hcommand']
    exact perform_episodes_of_absent (Text.isBlank_trim hb) habsent
  failed := by
    intro arguments w i series hread hcommand _ hexit
    simp only [run, hread] at hexit ⊢
    by_cases hopens : ∃ config library, Opens i w config library
    · obtain ⟨config, library, hopens⟩ := hopens
      obtain ⟨path, -, hopen⟩ := hopens.openAt
      rw [runInvocation_of_opens hopens, hcommand] at hexit ⊢
      obtain ⟨houtput, hdisk⟩ := perform_clear_of_failure (.opened hopen) hexit
      refine ⟨houtput, fun place => ?_⟩
      dsimp only
      rw [hdisk, hopens.storedRows place]
    · exact ⟨(runInvocation_of_not_opens hopens).2, storedRows_runInvocation_of_not_opens hopens⟩

/-- White space makes another series in a listing, but not in a clearance: what the one lists is
kept, and the rows of the other are gone. -/
theorem run_clear_padded :
    let row (series : String) : Row := .ofEpisode series 0 ⟨series, 1, 1, "Pilot", ""⟩
    let place := ["home", "episodes.sqlite"]
    let settings := "database_path = \"episodes.sqlite\"\n".toUTF8.toList
    let disk := Disk.putDatabase
      ((Files.Tree.ofWorkingDirectory ["home"]).put ["home", "config.toml"]
        (.file (.bytes settings)))
      place ⟨some [row "42", row " 42 "], []⟩
    let w : World Http.Peer :=
      ⟨⟨some "/home", none, none, none⟩, none, 0, disk, ⟨"", false, [], []⟩⟩
    let cleared := run Http.Peer.send ["--config", "config.toml", "clear", " 42 "] w
    Text.isBlank " 42 " = false ∧ cleared.1.exitCode = 0 ∧
      cleared.2.1.storedRows place = [row " 42 "] ∧
      (run Http.Peer.send ["--config", "config.toml", "episodes", " 42 "]
        { w with disk := cleared.2.1 }).1 =
          .success "S01E01  Pilot  (unaired)\n\n1 episode(s)\n" := by
  decide +kernel

end CommandLine

end EpisodeGuide
