import EpisodeGuide.Proofs.Cache.Reopening
import EpisodeGuide.Proofs.Cache.Shelf
import EpisodeGuide.Proofs.History

/-! # The cache as a map from series to lists

Over any run of reading, writing, clearing and opening again, while the clock moves as it likes,
the cache serves the last list that was written for a series, until a clearance or a day later. -/

namespace EpisodeGuide

/-- What happens to an open cache; the clock moves by some seconds, forwards or backwards. -/
inductive CacheMove where
  | read (series : String)
  | write (series : String) (episodes : List Episode)
  | clear (scope : Option String)
  | reopen
  | advance (seconds : Int)

/-- What a run shows, with the seconds at which it was read and written. -/
inductive CacheEvent where
  | read (time : Int) (series : String) (found : Lookup)
  | wrote (h : Holding)
  | cleared (scope : Option String) (removed : ℕ)
  | reopened
  | broken (e : CacheError)
  deriving DecidableEq, Repr

/-- What is seen of a run over the cache at a path that starts at the second `clock`. -/
def Cache.events (path : String) :
    List CacheMove → (clock : Int) → Cache → Disk → List CacheEvent
  | [], _, _, _ => []
  | .read series :: moves, clock, cache, disk =>
      .read clock series ((cache.database disk).read clock series) ::
        events path moves clock cache disk
  | .write series episodes :: moves, clock, cache, disk =>
      let (result, db) := (cache.database disk).write clock series episodes
      let (cache, disk) := cache.keep db disk
      match result with
      | .ok () => .wrote ⟨series, clock, episodes⟩ :: events path moves clock cache disk
      | .error e => .broken e :: events path moves clock cache disk
  | .clear scope :: moves, clock, cache, disk =>
      let (result, db) := (cache.database disk).clear scope
      let (cache, disk) := cache.keep db disk
      match result with
      | .ok removed => .cleared scope removed :: events path moves clock cache disk
      | .error e => .broken e :: events path moves clock cache disk
  | .reopen :: moves, clock, cache, disk =>
      match Cache.openAt path disk with
      | (.ok cache, disk) => .reopened :: events path moves clock cache disk
      | (.error e, disk) => .broken e :: events path moves clock cache disk
  | .advance seconds :: moves, clock, cache, disk =>
      events path moves (clock + seconds) cache disk

namespace CacheEvent

/-- Whether a list of a series is replaced or taken away. -/
def Covers (series : String) : CacheEvent → Prop
  | wrote h => h.series = series
  | cleared scope _ => covers scope series = true
  | read .. | reopened | broken _ => False

/-- The shelf after an event. -/
def shelve (shelf : List Holding) : CacheEvent → List Holding
  | wrote h => putOnShelf h shelf
  | cleared scope _ => takeOffShelf scope shelf
  | read .. | reopened | broken _ => shelf

end CacheEvent

/-- What is found of a series on a shelf. -/
def Finds (shelf : List Holding) (time : Int) (series : String) (found : Lookup) : Prop :=
  (∃ h ∈ shelf, h.series = series ∧ found = h.lookup time) ∨
    ((∀ h ∈ shelf, h.series ≠ series) ∧ found = .absent)

/-- An event as it may follow on a shelf: nothing fails, what is found is on the shelf, and what
is counted was on it. -/
def CacheEvent.Fits (shelf : List Holding) : CacheEvent → Prop
  | read time series found => Finds shelf time series found
  | cleared scope removed =>
      removed = ((shelf.filter fun h => covers scope h.series).map fun h => h.episodes.length).sum
  | wrote _ | reopened => True
  | broken _ => False

/-! ### Runs follow the shelf -/

theorem Database.read_finds {shelf : List Holding} (hone : OnePerSeries shelf) (clock : Int)
    (series : String) : Finds shelf clock series ((Database.ofShelf shelf).read clock series) := by
  by_cases h : ∃ h ∈ shelf, h.series = series
  · obtain ⟨h, hmem, rfl⟩ := h
    exact .inl ⟨h, hmem, rfl, read_of_mem clock shelf hone hmem⟩
  · have hnone : ∀ h ∈ shelf, h.series ≠ series := fun x hx heq => h ⟨x, hx, heq⟩
    exact .inr ⟨hnone, read_of_notMem clock series shelf hnone⟩

/-- The database of an open cache keeps a shelf, and the cache opens again if it has to. -/
structure Keeps (path : String) (reopens : Prop) (shelf : List Holding) (cache : Cache)
    (disk : Disk) : Prop where
  rows : cache.database disk = .ofShelf shelf
  one : OnePerSeries shelf
  again : reopens → (∃ place, cache = .onDisk place) ∧ Cache.openAt path disk = (.ok cache, disk)

variable {path : String} {reopens : Prop} {shelf : List Holding} {cache : Cache} {disk : Disk}

/-- Keeping another shelf. -/
theorem Keeps.keep (h : Keeps path reopens shelf cache disk) {shelf' : List Holding}
    (hone : OnePerSeries shelf') :
    Keeps path reopens shelf' (cache.keep (.ofShelf shelf') disk).1
      (cache.keep (.ofShelf shelf') disk).2 := by
  cases cache with
  | unshared db =>
      refine ⟨rfl, hone, fun hreopens => ?_⟩
      obtain ⟨⟨place, hplace⟩, -⟩ := h.again hreopens
      cases hplace
  | onDisk place =>
      have hroot : place ≠ [] := by
        rintro rfl
        cases h.rows
      refine ⟨Disk.database_putDatabase disk _ hroot, hone, fun hreopens => ⟨⟨place, rfl⟩, ?_⟩⟩
      exact Cache.openAt_again (h.again hreopens).2 (shelfRows shelf') []

theorem Keeps.mono (h : Keeps path reopens shelf cache disk) {fewer : Prop}
    (hfewer : fewer → reopens) : Keeps path fewer shelf cache disk :=
  ⟨h.rows, h.one, fun hf => h.again (hfewer hf)⟩

theorem Cache.events_along (moves : List CacheMove) (clock : Int)
    (h : Keeps path (.reopen ∈ moves) shelf cache disk) :
    History.Along CacheEvent.shelve CacheEvent.Fits shelf (events path moves clock cache disk) := by
  induction moves generalizing clock shelf cache disk with
  | nil => trivial
  | cons move moves ih =>
      have hrest : Keeps path (.reopen ∈ moves) shelf cache disk :=
        h.mono (List.mem_cons_of_mem _)
      cases move with
      | read series =>
          refine ⟨?_, ih clock hrest⟩
          rw [h.rows]
          exact Database.read_finds h.one clock series
      | write series episodes =>
          simp only [events, h.rows, Database.write_eq]
          exact ⟨trivial, ih clock (hrest.keep (h.one.put _))⟩
      | clear scope =>
          simp only [events, h.rows, Database.clear_eq]
          exact ⟨rfl, ih clock (hrest.keep (h.one.takeOff scope))⟩
      | reopen =>
          simp only [events, (h.again (List.mem_cons_self ..)).2]
          exact ⟨trivial, ih clock hrest⟩
      | advance seconds => exact ih (clock + seconds) hrest

/-! ### The shelf is what was written last -/

/-- The list that was written last for its series, and not cleared since. -/
def LastWrite (events : List CacheEvent) (h : Holding) : Prop :=
  ∃ xs ys, events = xs ++ .wrote h :: ys ∧ ∀ y ∈ ys, ¬ y.Covers h.series

theorem lastWrite_concat (events : List CacheEvent) (e : CacheEvent) (h : Holding) :
    LastWrite (events ++ [e]) h ↔ e = .wrote h ∨ (¬ e.Covers h.series ∧ LastWrite events h) := by
  constructor
  · rintro ⟨xs, ys, heq, hys⟩
    rcases List.eq_nil_or_concat ys with rfl | ⟨zs, z, rfl⟩
    · exact .inl (List.append_inj_right' heq rfl |> List.singleton_inj.mp)
    · have hsplit : events ++ [e] = (xs ++ .wrote h :: zs) ++ [z] := by simpa using heq
      obtain ⟨rfl, hlast⟩ := List.append_inj' hsplit rfl
      obtain rfl : e = z := List.singleton_inj.mp hlast
      rw [List.concat_eq_append, List.forall_mem_append, List.forall_mem_singleton] at hys
      exact .inr ⟨hys.2, xs, zs, rfl, hys.1⟩
  · rintro (rfl | ⟨he, xs, ys, rfl, hys⟩)
    · exact ⟨events, [], rfl, by simp⟩
    · refine ⟨xs, ys ++ [e], by simp, ?_⟩
      rw [List.forall_mem_append, List.forall_mem_singleton]
      exact ⟨hys, he⟩

/-- The shelf holds the lists that were written last. -/
theorem mem_shelf_iff (events : List CacheEvent) (h : Holding) :
    h ∈ events.foldl CacheEvent.shelve [] ↔ LastWrite events h := by
  induction events using List.reverseRecOn with
  | nil => simp [LastWrite]
  | append_singleton events e ih =>
      rw [List.foldl_append, List.foldl_cons, List.foldl_nil, lastWrite_concat, ← ih]
      cases e with
      | wrote g =>
          rw [CacheEvent.shelve, mem_putOnShelf, CacheEvent.wrote.injEq, CacheEvent.Covers]
          rw [eq_comm, ne_comm]
      | cleared scope removed =>
          rw [CacheEvent.shelve, mem_takeOffShelf, CacheEvent.Covers]
          simp
      | read | reopened | broken => simp [CacheEvent.shelve, CacheEvent.Covers]

theorem onePerSeries_shelf (events : List CacheEvent) :
    OnePerSeries (events.foldl CacheEvent.shelve []) := by
  induction events using List.reverseRecOn with
  | nil => exact List.nodup_nil
  | append_singleton events e ih =>
      rw [List.foldl_append, List.foldl_cons, List.foldl_nil]
      cases e with
      | wrote h => exact ih.put h
      | cleared scope removed => exact ih.takeOff scope
      | read | reopened | broken => exact ih

/-- Events that do not cover a series leave its list. -/
theorem lastWrite_append_iff {before between : List CacheEvent} {h : Holding}
    (hb : ∀ e ∈ between, ¬ e.Covers h.series) :
    LastWrite (before ++ between) h ↔ LastWrite before h := by
  induction between using List.reverseRecOn with
  | nil => rw [List.append_nil]
  | append_singleton between e ih =>
      rw [List.forall_mem_append, List.forall_mem_singleton] at hb
      have hne : e ≠ .wrote h := by
        rintro rfl
        exact hb.2 rfl
      rw [← List.append_assoc, lastWrite_concat, ih hb.1]
      simp [hne, hb.2]

/-- Shelves with the same list for a series find the same. -/
theorem Finds.unique {shelf shelf' : List Holding} {time : Int} {series : String}
    {found found' : Lookup} (hone : OnePerSeries shelf')
    (hsame : ∀ h, h.series = series → (h ∈ shelf ↔ h ∈ shelf')) (hf : Finds shelf time series found)
    (hf' : Finds shelf' time series found') : found = found' := by
  rcases hf with ⟨h, hmem, hseries, rfl⟩ | ⟨hnone, rfl⟩
  · rcases hf' with ⟨g, hmem', hseries', rfl⟩ | ⟨hnone', rfl⟩
    · have hmem := (hsame h hseries).mp hmem
      rw [hone.eq_of_series hmem hmem' (hseries.trans hseries'.symm)]
    · exact (hnone' h ((hsame h hseries).mp hmem) hseries).elim
  · rcases hf' with ⟨g, hmem', hseries', rfl⟩ | ⟨hnone', rfl⟩
    · exact (hnone g ((hsame g hseries').mpr hmem') hseries').elim
    · rfl

/-! ### The map that the cache is -/

/-- A run over a cache that starts empty: what is found is the last list that was written, in
order and not older than a day, what is counted are the episodes of all such lists in the scope,
other series do not matter, and nothing fails. -/
structure CacheSpec (events : List CacheEvent) : Prop where
  hit : ∀ before time series found after, events = before ++ .read time series found :: after →
    ∀ episodes, found = .hit episodes ↔
      ∃ h, LastWrite before h ∧ h.series = series ∧ h.episodes ≠ [] ∧
        max time 0 - max h.time 0 ≤ 86400 ∧
        episodes = Episode.sorted (h.episodes.map (Episode.under series)) ∧
        Episode.StablySorted (h.episodes.map (Episode.under series)) episodes
  missed : ∀ before time series found after, events = before ++ .read time series found :: after →
    (∃ episodes, found = .hit episodes) ∨ found = .absent ∨ found = .expired
  cleared : ∀ before scope removed after, events = before ++ .cleared scope removed :: after →
    ∃ shelf, OnePerSeries shelf ∧ (∀ h, h ∈ shelf ↔ LastWrite before h) ∧
      removed =
        ((shelf.filter fun h => covers scope h.series).map fun h => h.episodes.length).sum
  isolated : ∀ before time series found between found' after,
    events = before ++ .read time series found :: between ++ .read time series found' :: after →
    (∀ e ∈ between, ¬ e.Covers series) → found = found'
  unbroken : ∀ e, .broken e ∉ events

theorem cacheSpec_of_along {events : List CacheEvent}
    (h : History.Along CacheEvent.shelve CacheEvent.Fits [] events) : CacheSpec events := by
  refine ⟨?_, ?_, ?_, ?_, ?_⟩
  · rintro before time series found after rfl episodes
    have hfinds : Finds (before.foldl CacheEvent.shelve []) time series found := h.fits
    constructor
    · rintro rfl
      rcases hfinds with ⟨g, hmem, rfl, hfound⟩ | ⟨-, hfound⟩
      · obtain ⟨hne, hage, rfl⟩ := (g.lookup_eq_hit_iff time episodes).mp hfound.symm
        exact ⟨g, (mem_shelf_iff before g).mp hmem, rfl, hne, hage, rfl,
          Episode.sorted_stablySorted _⟩
      · cases hfound
    · rintro ⟨g, hlast, rfl, hne, hage, hepisodes, -⟩
      have hmem := (mem_shelf_iff before g).mpr hlast
      rw [← (g.lookup_eq_hit_iff time episodes).mpr ⟨hne, hage, hepisodes⟩]
      exact hfinds.unique (onePerSeries_shelf before) (fun _ _ => Iff.rfl)
        (.inl ⟨g, hmem, rfl, rfl⟩)
  · rintro before time series found after rfl
    have hfinds : Finds (before.foldl CacheEvent.shelve []) time series found := h.fits
    rcases hfinds with ⟨g, -, -, rfl⟩ | ⟨-, rfl⟩
    · exact g.lookup_cases time
    · exact .inr (.inl rfl)
  · rintro before scope removed after rfl
    exact ⟨_, onePerSeries_shelf before, mem_shelf_iff before, h.fits⟩
  · rintro before time series found between found' after rfl hb
    have hfinds' : Finds ((before ++ .read time series found :: between).foldl
        CacheEvent.shelve []) time series found' := h.fits
    have hfinds : Finds (before.foldl CacheEvent.shelve []) time series found := by
      rw [List.append_assoc] at h
      exact h.fits
    refine hfinds.unique (onePerSeries_shelf _) (fun g hg => ?_) hfinds'
    rw [mem_shelf_iff, mem_shelf_iff]
    refine (lastWrite_append_iff ?_).symm
    rw [hg]
    exact List.forall_mem_cons.mpr ⟨id, hb⟩
  · intro e he
    obtain ⟨xs, ys, rfl⟩ := List.mem_iff_append.mp he
    exact h.fits

/-- Every run over a cache that starts empty, in memory or on disk, goes like a run over a map
from series to lists; a cache on disk may be opened again at its path. -/
theorem Cache.events_cacheSpec (path : String) (moves : List CacheMove) (clock : Int)
    (cache : Cache) (disk : Disk) (hempty : cache.database disk = ⟨some [], []⟩)
    (hopened : .reopen ∈ moves →
      ∃ place before, cache = .onDisk place ∧ Cache.openAt path before = (.ok cache, disk)) :
    CacheSpec (Cache.events path moves clock cache disk) := by
  refine cacheSpec_of_along (events_along moves clock ⟨hempty, List.nodup_nil, ?_⟩)
  intro hreopen
  obtain ⟨place, before, rfl, hopen⟩ := hopened hreopen
  exact ⟨⟨place, rfl⟩, openAt_same hopen⟩

/-- A cache in a new directory, which is opened again before the list expires. -/
theorem Cache.events_cacheSpec_reopened :
    let path := "cache/episodes.sqlite"
    let before : Disk := Files.Tree.ofWorkingDirectory ["home"]
    let cache := Cache.onDisk ["home", "cache", "episodes.sqlite"]
    let disk := (Cache.openAt path before).2
    let moves := [.write "42" [⟨"", 1, 2, "Later", ""⟩, ⟨"", 1, 1, "Pilot", ""⟩], .advance 86400,
      .reopen, .read "42", .advance 1, .read "42", .clear none]
    cache.database disk = ⟨some [], []⟩ ∧ Cache.openAt path before = (.ok cache, disk) ∧
      CacheSpec (Cache.events path moves 0 cache disk) := by
  intro path before cache disk moves
  have hempty : cache.database disk = ⟨some [], []⟩ := by decide +kernel
  have hplace : (match (Cache.openAt path before).1 with
      | .ok (.onDisk place) => some place
      | _ => none) = some ["home", "cache", "episodes.sqlite"] := by decide +kernel
  have hopen : Cache.openAt path before = (.ok cache, disk) := by
    rcases h : Cache.openAt path before with ⟨_ | (place | db), opened⟩ <;> simp [h] at hplace
    simp [cache, disk, h, hplace]
  exact ⟨hempty, hopen, Cache.events_cacheSpec path moves 0 cache disk hempty
    fun _ => ⟨_, before, rfl, hopen⟩⟩

end EpisodeGuide
