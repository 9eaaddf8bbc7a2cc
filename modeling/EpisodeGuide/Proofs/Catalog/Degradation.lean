import EpisodeGuide.Catalog.Open
import EpisodeGuide.Proofs.Catalog.Lookup

/-! # Lookups without a cache

When storage fails, the cache stays as it was and lookups go on without it: a list that cannot be
read is asked for, and one that cannot be kept is handed out all the same. -/

namespace EpisodeGuide

open Database (fault? newRows MayFail applyAll replacement inScope)

variable {σ : Type} {ask : Source σ} {clock : Int} {series : String} {refresh : Bool}

/-! ### Catalogs -/

namespace Catalog

/-- A list that cannot be read is asked for as a missing one is, and is reported. -/
theorem get_of_unreadable {e : CacheError} {c c₀ : Catalog σ} (hb : Text.isBlank series = false)
    (hfailed : c.cache.read clock series = .failed e) (hsource : c₀.source = c.source)
    (habsent : c₀.cache.read clock series = .absent) :
    ∃ found source events,
      c.get ask clock series false =
        (some found, ⟨source, kept clock series found c.cache,
          c.log ++ .cacheReadFailed series e :: events ++ keptEvents clock series found c.cache⟩) ∧
      c₀.get ask clock series false =
        (some found, ⟨source, kept clock series found c₀.cache,
          c₀.log ++ events ++ keptEvents clock series found c₀.cache⟩) := by
  obtain ⟨_, db, log⟩ := c
  obtain ⟨source, db₀, log₀⟩ := c₀
  obtain rfl : source = _ := hsource
  refine ⟨(ask series source).1.1, (ask series source).2, (ask series source).1.2, ?_, ?_⟩
  · rw [get_of_asks hb (.inr (by simp [hfailed]))]
    simp [asked, askedEvents, missEvents, hfailed]
  · rw [get_of_asks hb (.inr (by simp [habsent]))]
    simp [asked, askedEvents, missEvents, Lookup.events, habsent]

/-- A list that is not kept changes nothing in the cache and is reported. -/
theorem get_of_unwritten {e : CacheError} {c : Catalog σ} (hb : Text.isBlank series = false)
    (h : c.Asks clock series refresh) (hne : c.asked ask series ≠ [])
    (hwrite : (c.cache.write clock series (c.asked ask series)).1 = .error e) :
    c.get ask clock series refresh =
      (some (c.asked ask series),
        ⟨(ask series c.source).2, c.cache,
          c.log ++ (if refresh then [] else missEvents series (c.cache.read clock series)) ++
            c.askedEvents ask series ++ [.cacheWriteFailed series e]⟩) := by
  rw [get_of_asks hb h, kept, if_neg hne, Database.write_of_error hwrite, keptEvents, if_neg hne,
    hwrite]

end Catalog

/-! ### Catalogs over an open cache -/

namespace Library

variable {path : String} {l : Library σ}

/-- An operation that leaves the database leaves the cache and the disk. -/
theorem run_of_same {α : Type} {op : Catalog σ → α × Catalog σ} {result : α} {source : σ}
    {log : List Event} (h : l.cache.InUse path l.disk)
    (hop : op l.catalog = (result, ⟨source, l.catalog.cache, log⟩)) :
    l.run op = (result, ⟨l.cache, l.disk, source, log⟩) := by
  simp only [run, hop]
  rw [catalog, h.keep_database]

end Library

/-- Storage failures of a catalog over an open cache. A change of the table fails for known
reasons, and wherever it fails, the catalog is as if it had not been tried. A list that cannot be
read is asked for as if it were missing, and one that cannot be kept is the answer all the same;
both are reported. -/
structure StorageSpec (ask : Source σ) (clock : Int) (l : Library σ) : Prop where
  written : ∀ series episodes, l.catalog.cache.write clock series episodes =
    match l.catalog.cache.fault? (Row.isOf series) (newRows clock series episodes) with
    | some fault => (.error (.queryFailed fault), l.catalog.cache)
    | none => (.ok (), l.catalog.cache.replaced (Row.isOf series) (newRows clock series episodes))
  writeFailed : ∀ series episodes e, (l.catalog.cache.write clock series episodes).1 = .error e →
    (l.catalog.cache.write clock series episodes).2 = l.catalog.cache ∧
      l.run (Catalog.write clock series episodes) = (.error e, l)
  writeInterrupted : ∀ series new changes, List.Forall₂ MayFail (replacement series new) changes →
    l.catalog.cache.transact (applyAll changes) =
        l.catalog.cache.transact (Database.replaceRows series new) ∨
      ∃ fault, l.catalog.cache.transact (applyAll changes) = (.error fault, l.catalog.cache)
  cleared : ∀ scope, l.catalog.cache.clear scope =
    match l.catalog.cache.fault? (inScope scope) [] with
    | some fault => (.error (.queryFailed fault), l.catalog.cache)
    | none => (.ok ((l.catalog.cache.table.getD []).filter (inScope scope)).length,
        l.catalog.cache.replaced (inScope scope) [])
  clearFailed : ∀ scope e, (l.catalog.cache.clear scope).1 = .error e →
    (l.catalog.cache.clear scope).2 = l.catalog.cache ∧
      l.cache.keep (l.catalog.cache.clear scope).2 l.disk = (l.cache, l.disk)
  clearInterrupted : ∀ scope change, MayFail (Database.deleteRows (inScope scope)) change →
    l.catalog.cache.transact change =
        l.catalog.cache.transact (Database.deleteRows (inScope scope)) ∨
      ∃ fault, l.catalog.cache.transact change = (.error fault, l.catalog.cache)
  unreadable : ∀ series e (c : Catalog σ), Text.isBlank series = false →
    l.catalog.cache.read clock series = .failed e →
    c.source = l.source → c.cache.read clock series = .absent →
    (Event.cacheReadFailed series e).level = .warn ∧ ∃ found source events,
      l.catalog.get ask clock series false =
        (some found, ⟨source, Catalog.kept clock series found l.catalog.cache,
          l.log ++ .cacheReadFailed series e :: events ++
            Catalog.keptEvents clock series found l.catalog.cache⟩) ∧
      c.get ask clock series false =
        (some found, ⟨source, Catalog.kept clock series found c.cache,
          c.log ++ events ++ Catalog.keptEvents clock series found c.cache⟩)
  unwritten : ∀ series refresh e, Text.isBlank series = false →
    l.catalog.Asks clock series refresh → l.catalog.asked ask series ≠ [] →
    (l.catalog.cache.write clock series (l.catalog.asked ask series)).1 = .error e →
    (Event.cacheWriteFailed series e).level = .warn ∧
      l.run (Catalog.get ask clock series refresh) =
        (some (l.catalog.asked ask series),
          ⟨l.cache, l.disk, (ask series l.source).2,
            l.log ++ (if refresh then []
                else Catalog.missEvents series (l.catalog.cache.read clock series)) ++
              l.catalog.askedEvents ask series ++ [.cacheWriteFailed series e]⟩)
  answered : ∀ series refresh,
    (l.run (Catalog.get ask clock series refresh)).1 = none ↔ Text.isBlank series = true

/-- Over every cache that is opened and used in any way, storage fails without a trace in the
cache, and every lookup of a series is answered. -/
theorem Library.storageSpec (path : String) (ask : Source σ) (clock : Int) (l : Library σ)
    (h : l.cache.InUse path l.disk) : StorageSpec ask clock l where
  written := fun series episodes => Database.write_eq_fault clock series episodes _
  writeFailed := fun series episodes e he => by
    have hsame := Database.write_of_error he
    refine ⟨hsame, run_of_same h ?_⟩
    rcases hwrite : l.catalog.cache.write clock series episodes with ⟨result, db⟩
    obtain rfl : result = .error e := by simpa [hwrite] using he
    obtain rfl : db = l.catalog.cache := by simpa [hwrite] using hsame
    simp only [Catalog.write, hwrite]
    rfl
  writeInterrupted := fun series new changes hchanges => by
    rw [← Database.applyAll_replacement]
    exact Database.transact_mayFail (Database.applyAll_mayFail hchanges) l.catalog.cache
  cleared := fun scope => Database.clear_eq_fault scope _
  clearFailed := fun scope e he => by
    refine ⟨Database.clear_of_error he, ?_⟩
    rw [Database.clear_of_error he]
    exact h.keep_database
  clearInterrupted := fun scope change hchange =>
    Database.transact_mayFail hchange l.catalog.cache
  unreadable := fun series e c hb hfailed hsource habsent =>
    ⟨rfl, Catalog.get_of_unreadable (c := l.catalog) hb hfailed hsource habsent⟩
  unwritten := fun series refresh e hb hasks hne he =>
    ⟨rfl, run_of_same h (Catalog.get_of_unwritten hb hasks hne he)⟩
  answered := fun series refresh => Catalog.get_eq_none_iff

/-- The second episode of a list springs a trap, behind the rows that were deleted and the one that
was inserted. -/
theorem Library.storageSpec_trapped :
    let pilot : Episode := ⟨"42", 1, 1, "Pilot", ""⟩
    let db : Database := ⟨some (newRows 0 "42" [pilot] ++ newRows 0 "7" [pilot]), [.insert]⟩
    let list := [pilot, ⟨"42", 1, 2, Trap.bait, ""⟩, ⟨"42", 1, 3, "Third", ""⟩]
    let l : Library Playlist :=
      ⟨.unshared db, Files.Tree.ofWorkingDirectory ["home"], ⟨[list], []⟩, []⟩
    l.run (Catalog.get Playlist.source 100000 "42" false) =
        (some list, ⟨l.cache, l.disk, ⟨[], ["42"]⟩,
          [.cacheExpired "42", .cacheWriteFailed "42" (.queryFailed .trapped)]⟩) ∧
      StorageSpec Playlist.source 100000 l := by
  intro pilot db list l
  have h : l.cache.InUse "episodes.sqlite" l.disk := .kept db (.inMemory l.disk)
  have hexpired : l.catalog.cache.read 100000 "42" = .expired := by decide +kernel
  have hasks : l.catalog.Asks 100000 "42" false := .inr (by simp [hexpired])
  have hspec := Library.storageSpec "episodes.sqlite" Playlist.source 100000 l h
  refine ⟨?_, hspec⟩
  rw [(hspec.unwritten "42" false (.queryFailed .trapped) (by decide +kernel) hasks (by decide)
    (by decide +kernel)).2, hexpired]
  rfl

end EpisodeGuide
