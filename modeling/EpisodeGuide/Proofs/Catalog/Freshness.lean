import EpisodeGuide.Proofs.Catalog.Lookup
import EpisodeGuide.Proofs.History

/-! # The day after a list was written

A list that a lookup has fetched and written is served for one day, and then the source is asked
again. It takes a write or a clearance of the series itself to change that: what the table held
before does not matter, nor does anything that is done for other series. -/

namespace EpisodeGuide

variable {σ : Type}

/-! ### Tables that hold a list -/

namespace Database

/-- The rows of a series are those of one list, wherever they stand in the table. -/
def Holds (h : Holding) (db : Database) : Prop :=
  ∃ rows, db.table = some rows ∧ rows.filter (Row.isOf h.series) = h.rows

/-- Reading a series looks up the list that is held for it. -/
theorem Holds.read_eq {h : Holding} {db : Database} (hdb : db.Holds h) (clock : Int) :
    db.read clock h.series = h.lookup clock := by
  obtain ⟨rows, htable, hrows⟩ := hdb
  have hload : Table.load h.series rows =
      .ok ((Episode.sorted (h.episodes.map (Episode.under h.series))).map
        fun e => (e, cacheTime h.time)) := by
    rw [Table.load, Table.rowsOf, hrows, h.load_eq]
  simp only [read, Database.rows, htable, Except.bind, hload, judge_sameAge, Holding.lookup,
    Episode.sorted_eq_nil_iff, List.map_eq_nil_iff]

/-- A list that was written is held, whatever rows the series had before. -/
theorem holds_of_write {clock : Int} {series : String} {episodes : List Episode} {db : Database}
    (h : (db.write clock series episodes).1 = .ok ()) :
    (db.write clock series episodes).2.Holds ⟨series, clock, episodes⟩ := by
  rw [write_of_ok h]
  exact ⟨_, rfl, filter_replaced clock series episodes db⟩

/-- Replacing rows of other series leaves the list. -/
theorem Holds.replaced {h : Holding} {db : Database} (hdb : db.Holds h) {p : Row → Bool}
    {new : List Row} (hp : ∀ r, Row.isOf h.series r = true → p r = false)
    (hnew : ∀ r ∈ new, Row.isOf h.series r.store = false) : (db.replaced p new).Holds h := by
  obtain ⟨rows, htable, hrows⟩ := hdb
  refine ⟨_, rfl, ?_⟩
  have hothers : (rows.filter fun r => !p r).filter (Row.isOf h.series) =
      rows.filter (Row.isOf h.series) := by
    rw [List.filter_filter]
    refine List.filter_congr fun r _ => ?_
    by_cases hr : Row.isOf h.series r = true
    · simp [hr, hp r hr]
    · simp [hr]
  have hnone : (new.map Row.store).filter (Row.isOf h.series) = [] := by
    rw [List.filter_eq_nil_iff, List.forall_mem_map]
    exact fun r hr => by simp [hnew r hr]
  rw [htable, Option.getD_some, List.filter_append, hothers, hnone, List.append_nil, hrows]

theorem Holds.write {h : Holding} {db : Database} (hdb : db.Holds h) {clock : Int}
    {series : String} {episodes : List Episode}
    (hother : (db.write clock series episodes).1 = .ok () → series ≠ h.series) :
    (db.write clock series episodes).2.Holds h := by
  cases hresult : (db.write clock series episodes).1 with
  | error e => rwa [write_of_error hresult]
  | ok =>
      have hne := hother hresult
      rw [write_of_ok hresult]
      refine hdb.replaced (fun r hr => ?_) (fun r hr => ?_)
      · have hseries : r.series = .text h.series := by simpa [Row.isOf] using hr
        simpa [Row.isOf, hseries] using hne.symm
      · obtain ⟨e, -, rfl⟩ := List.mem_map.mp hr
        simpa [Row.store_ofEpisode, Row.isOf_ofEpisode] using hne

theorem Holds.clear {h : Holding} {db : Database} (hdb : db.Holds h) {scope : Option String}
    (hother : (∃ removed, (db.clear scope).1 = .ok removed) → ¬ covers scope h.series = true) :
    (db.clear scope).2.Holds h := by
  cases hresult : (db.clear scope).1 with
  | error e => rwa [clear_of_error hresult]
  | ok removed =>
      have hscope := hother ⟨removed, hresult⟩
      rw [clear_of_ok hresult]
      refine hdb.replaced (fun r hr => ?_) (by simp)
      cases scope with
      | none => exact (hscope rfl).elim
      | some id =>
          have hseries : r.series = .text h.series := by simpa [Row.isOf] using hr
          simpa [inScope, Row.isOf, hseries, covers, ne_comm] using hscope

end Database

/-! ### Sources that are watched -/

/-- A source with the series that it was asked for so far. -/
structure Watched (σ : Type) where
  source : σ
  asked : List String

def Source.watch (ask : Source σ) : Source (Watched σ) := fun series w =>
  let (result, source) := ask series w.source
  (result, ⟨source, w.asked ++ [series]⟩)

namespace Catalog

def watched (c : Catalog σ) : Catalog (Watched σ) :=
  ⟨⟨c.source, []⟩, c.cache, c.log⟩

def consulted (ask : Source σ) (clock : Int) (series : String) (refresh : Bool)
    (c : Catalog σ) : List String :=
  (c.watched.get ask.watch clock series refresh).2.source.asked

end Catalog

/-! ### Runs of a catalog -/

/-- What is done with a catalog and around it: the clock moves by some seconds, forwards or
backwards, and the database may become any other one behind the back of the cache. -/
inductive CatalogMove where
  | get (series : String) (refresh : Bool)
  | clear (series : Option String)
  | read (series : String)
  | write (series : String) (episodes : List Episode)
  | clearCache (scope : Option String)
  | advance (seconds : Int)
  | disturb (db : Database)

/-- A lookup at a second: the series that the source was asked for, the answer, and the database
before and after it. -/
structure Visit where
  time : Int
  series : String
  refresh : Bool
  asked : List String
  answer : Option (List Episode)
  before : Database
  after : Database

/-- What is seen of a run. -/
inductive CatalogEvent where
  | got (v : Visit)
  | wrote (time : Int) (series : String) (episodes : List Episode)
      (result : Except CacheError Unit)
  | cleared (scope : Option String) (result : Except CacheError ℕ)
  | disturbed (db : Database)

/-- What is seen of a run that starts at the second `clock`. -/
def Catalog.events (ask : Source σ) :
    List CatalogMove → (clock : Int) → Catalog σ → List CatalogEvent
  | [], _, _ => []
  | .get series refresh :: moves, clock, c =>
      let (answer, after) := c.get ask clock series refresh
      .got ⟨clock, series, refresh, c.consulted ask clock series refresh, answer, c.cache,
        after.cache⟩ :: events ask moves clock after
  | .clear series :: moves, clock, c =>
      let scope := Text.nonBlank? series
      .cleared scope (c.cache.clear scope).1 :: events ask moves clock (c.clear series).2
  | .read series :: moves, clock, c => events ask moves clock (c.read clock series).2
  | .write series episodes :: moves, clock, c =>
      let (result, after) := c.write clock series episodes
      .wrote clock series episodes result :: events ask moves clock after
  | .clearCache scope :: moves, clock, c =>
      let (result, db) := c.cache.clear scope
      .cleared scope result :: events ask moves clock { c with cache := db }
  | .advance seconds :: moves, clock, c => events ask moves (clock + seconds) c
  | .disturb db :: moves, clock, c =>
      .disturbed db :: events ask moves clock { c with cache := db }

/-- A lookup goes one of three ways: it is for no series, it is answered from the cache, or it asks
the source once and keeps what that hands out. -/
inductive VisitDerivation : Visit → Prop where
  | blank {time series refresh db} (h : Text.isBlank series = true) :
      VisitDerivation ⟨time, series, refresh, [], none, db, db⟩
  | hit {time series episodes db} (h : Text.isBlank series = false)
      (hread : db.read time series = .hit episodes) :
      VisitDerivation ⟨time, series, false, [], some episodes, db, db⟩
  | fetched {time series refresh db} (found) (h : Text.isBlank series = false)
      (hmiss : refresh = true ∨ ∀ episodes, db.read time series ≠ .hit episodes) :
      VisitDerivation ⟨time, series, refresh, [series], some found, db,
        Catalog.kept time series found db⟩

theorem Catalog.get_derivation (ask : Source σ) (clock : Int) (series : String) (refresh : Bool)
    (c : Catalog σ) :
    VisitDerivation ⟨clock, series, refresh, c.consulted ask clock series refresh,
      (c.get ask clock series refresh).1, c.cache, (c.get ask clock series refresh).2.cache⟩ := by
  cases hb : Text.isBlank series with
  | true =>
      rw [consulted, get_of_blank hb, get_of_blank hb]
      exact .blank hb
  | false =>
      by_cases h : c.Asks clock series refresh
      · have hwatched : c.watched.Asks clock series refresh := h
        rw [consulted, get_of_asks hb hwatched, get_of_asks hb h]
        exact .fetched _ hb h
      · obtain ⟨rfl, episodes, hread⟩ := exists_hit_of_not_asks h
        have hwatched : c.watched.cache.read clock series = .hit episodes := hread
        rw [consulted, get_of_hit hb hwatched, get_of_hit hb hread]
        exact .hit hb hread

namespace Visit

/-- The source was asked, handed out a list that is not empty, and the list was written. -/
def Stocks (v : Visit) : Prop :=
  v.asked ≠ [] ∧ ∃ found, v.answer = some found ∧ found ≠ [] ∧
    (v.before.write v.time v.series found).1 = .ok ()

end Visit

namespace CatalogEvent

/-- The database that an event leaves. -/
def leave (db : Database) : CatalogEvent → Database
  | got v => v.after
  | wrote time series episodes _ => (db.write time series episodes).2
  | cleared scope _ => (db.clear scope).2
  | disturbed db' => db'

/-- An event as it may take place on a database. -/
def Fits (db : Database) : CatalogEvent → Prop
  | got v => v.before = db ∧ VisitDerivation v
  | wrote time series episodes result => result = (db.write time series episodes).1
  | cleared scope result => result = (db.clear scope).1
  | disturbed _ => True

/-- Whether rows of a series were written or cleared, or the database was disturbed. -/
def Covers (series : String) : CatalogEvent → Prop
  | got v => v.series = series ∧ v.Stocks
  | wrote _ id _ result => id = series ∧ result = .ok ()
  | cleared scope result => covers scope series = true ∧ ∃ removed, result = .ok removed
  | disturbed _ => True

end CatalogEvent

theorem Catalog.events_along (ask : Source σ) (moves : List CatalogMove) (clock : Int)
    (c : Catalog σ) :
    History.Along CatalogEvent.leave CatalogEvent.Fits c.cache (events ask moves clock c) := by
  induction moves generalizing clock c with
  | nil => trivial
  | cons move moves ih =>
      cases move with
      | get series refresh => exact ⟨⟨rfl, get_derivation ask clock series refresh c⟩, ih _ _⟩
      | clear series =>
          refine ⟨rfl, ?_⟩
          have hcache : (c.clear series).2.cache = (c.cache.clear (Text.nonBlank? series)).2 := by
            rcases h : c.cache.clear (Text.nonBlank? series) with ⟨_ | removed, db⟩ <;>
              simp [clear, h, note]
          rw [CatalogEvent.leave, ← hcache]
          exact ih _ _
      | read series => exact ih clock (c.read clock series).2
      | write series episodes =>
          have hresult : (c.write clock series episodes).1 =
              (c.cache.write clock series episodes).1 ∧
              (c.write clock series episodes).2.cache =
                (c.cache.write clock series episodes).2 := by
            rcases h : c.cache.write clock series episodes with ⟨_ | removed, db⟩ <;>
              simp [write, h, note]
          refine ⟨hresult.1, ?_⟩
          rw [CatalogEvent.leave, ← hresult.2]
          exact ih _ _
      | clearCache scope => exact ⟨rfl, ih clock { c with cache := (c.cache.clear scope).2 }⟩
      | advance seconds => exact ih _ c
      | disturb db => exact ⟨trivial, ih clock { c with cache := db }⟩

/-! ### What lookups leave -/

theorem VisitDerivation.holds {v : Visit} (h : VisitDerivation v) (hstocks : v.Stocks) :
    ∃ found, v.answer = some found ∧ found ≠ [] ∧ v.asked = [v.series] ∧
      Text.isBlank v.series = false ∧ v.after.Holds ⟨v.series, v.time, found⟩ := by
  obtain ⟨hasked, found, hanswer, hne, hok⟩ := hstocks
  cases h with
  | blank | hit => exact (hasked rfl).elim
  | fetched _ hb =>
      obtain rfl := Option.some.inj hanswer
      refine ⟨_, rfl, hne, rfl, hb, ?_⟩
      simp only [Catalog.kept, if_neg hne]
      exact Database.holds_of_write hok

/-- What does not cover a series leaves its list. -/
theorem Database.Holds.leave {h : Holding} {db : Database} (hdb : db.Holds h) {e : CatalogEvent}
    (hfits : e.Fits db) (hother : ¬ e.Covers h.series) : (e.leave db).Holds h := by
  cases e with
  | got v =>
      obtain ⟨rfl, hv⟩ := hfits
      cases hv with
      | blank | hit => exact hdb
      | @fetched time series _ db found =>
          change (Catalog.kept time series found db).Holds h
          unfold Catalog.kept
          split
          · exact hdb
          · next hne =>
              refine hdb.write fun hok hseries => hother ⟨hseries, ?_⟩
              exact ⟨List.cons_ne_nil _ _, found, rfl, hne, hok⟩
  | wrote time series episodes result =>
      exact hdb.write fun hok hseries => hother ⟨hseries, hfits.trans hok⟩
  | cleared scope result =>
      exact hdb.clear fun ⟨removed, hok⟩ hcovers => hother ⟨hcovers, removed, hfits.trans hok⟩
  | disturbed db' => exact (hother trivial).elim

theorem Database.Holds.foldl {h : Holding} {db : Database} {events : List CatalogEvent}
    (hdb : db.Holds h) (halong : History.Along CatalogEvent.leave CatalogEvent.Fits db events)
    (hothers : ∀ e ∈ events, ¬ e.Covers h.series) :
    (events.foldl CatalogEvent.leave db).Holds h := by
  induction events generalizing db with
  | nil => exact hdb
  | cons e events ih =>
      obtain ⟨hother, hothers⟩ := List.forall_mem_cons.mp hothers
      exact ih (hdb.leave halong.1 hother) halong.2 hothers

/-- What is looked up where a list is held: the list for one day, and then the source is asked. -/
theorem VisitDerivation.of_holds {v : Visit} (h : VisitDerivation v) {g : Holding}
    (hdb : v.before.Holds g) (hne : g.episodes ≠ []) (hseries : v.series = g.series)
    (hb : Text.isBlank g.series = false) (hrefresh : v.refresh = false) :
    (max v.time 0 - max g.time 0 ≤ 86400 → v.asked = [] ∧ v.after = v.before ∧
        v.answer = some (Episode.sorted (g.episodes.map (Episode.under g.series)))) ∧
      (86400 < max v.time 0 - max g.time 0 → v.asked = [g.series]) := by
  have hread : v.before.read v.time g.series = g.lookup v.time := hdb.read_eq v.time
  have hlookup := g.lookup_eq_hit_iff v.time
  cases h with
  | blank hblank =>
      obtain rfl : _ = g.series := hseries
      simp [hb] at hblank
  | @hit time series episodes db _ hhit =>
      obtain rfl : series = g.series := hseries
      rw [hhit, eq_comm, hlookup] at hread
      obtain ⟨-, hage, rfl⟩ := hread
      exact ⟨fun _ => ⟨rfl, rfl, rfl⟩, fun hold => absurd hage (Int.not_le.mpr hold)⟩
  | @fetched time series refresh db found _ hmiss =>
      obtain rfl : series = g.series := hseries
      obtain rfl : refresh = false := hrefresh
      refine ⟨fun hage => ?_, fun _ => rfl⟩
      have hhit := (hlookup _).mpr ⟨hne, hage, rfl⟩
      rw [← hread] at hhit
      exact (hmiss.resolve_left (by simp) _ hhit).elim

/-- A run of a catalog. Behind a lookup whose list was fetched and written, and as long as nothing
covers the series, a lookup is answered with that list for one day, without the source; later it
asks the source exactly once. A lookup whose fetch hands out nothing leaves the table as it is. -/
structure FreshnessSpec (events : List CatalogEvent) : Prop where
  window : ∀ before v between w after,
    events = before ++ .got v :: between ++ .got w :: after → v.Stocks →
    (∀ e ∈ between, ¬ e.Covers v.series) → w.series = v.series → w.refresh = false →
    (max w.time 0 - max v.time 0 ≤ 86400 → w.asked = [] ∧ w.after = w.before ∧
        ∀ found, v.answer = some found →
          w.answer = some (Episode.sorted (found.map (Episode.under v.series)))) ∧
      (86400 < max w.time 0 - max v.time 0 → w.asked = [v.series])
  unfound : ∀ v, .got v ∈ events → v.asked ≠ [] → v.answer = some [] →
    v.after = v.before ∧ ¬ v.Stocks

/-- Over any source, from any table and whatever is done in between, a list that was written is
fresh for one day. -/
theorem Catalog.events_freshnessSpec (ask : Source σ) (moves : List CatalogMove) (clock : Int)
    (c : Catalog σ) : FreshnessSpec (events ask moves clock c) where
  window := by
    intro before v between w after hevents hstocks hothers hseries hrefresh
    have halong := events_along ask moves clock c
    rw [hevents, List.append_assoc] at halong
    -- The database behind the first lookup holds its list, and so do all up to the second one.
    obtain ⟨⟨-, hv⟩, htail⟩ := ((History.along_append _ _ _).mp halong).2
    obtain ⟨hbetween, ⟨hbefore, hw⟩, -⟩ := (History.along_append _ _ _).mp htail
    obtain ⟨found, hanswer, hne, -, hb, hholds⟩ := hv.holds hstocks
    have hlast := hholds.foldl hbetween hothers
    obtain ⟨hyoung, hold⟩ := hw.of_holds (g := ⟨v.series, v.time, found⟩)
      (hbefore ▸ hlast) hne hseries hb hrefresh
    refine ⟨fun hage => ?_, hold⟩
    obtain ⟨hasked, hsame, hlist⟩ := hyoung hage
    refine ⟨hasked, hsame, fun found' hanswer' => ?_⟩
    obtain rfl : found = found' := Option.some.inj (hanswer.symm.trans hanswer')
    exact hlist
  unfound := by
    intro v hmem hasked hanswer
    obtain ⟨xs, ys, hsplit⟩ := List.mem_iff_append.mp hmem
    have halong := events_along ask moves clock c
    rw [hsplit] at halong
    have hv : VisitDerivation v := halong.fits.2
    refine ⟨?_, ?_⟩
    · cases hv with
      | blank | hit => exact (hasked rfl).elim
      | fetched found =>
          obtain rfl : found = [] := Option.some.inj hanswer
          rfl
    · rintro ⟨-, found, hfound, hne, -⟩
      exact hne (Option.some.inj (hfound.symm.trans hanswer))

/-- A row that cannot be read is healed by the first lookup. -/
example :
    let broken : Row := ⟨.text "42", .text "one", .integer 1, .blob [], .text "", .integer 99999⟩
    let c : Catalog Playlist := ⟨⟨[[⟨"42", 1, 1, "Pilot", ""⟩]], []⟩, ⟨some [broken], []⟩, []⟩
    ((Catalog.events Playlist.source
      [.get "42" false, .advance 86400, .get "42" false, .advance 1, .get "42" false] 0 c).filterMap
        fun e => match e with
          | .got v => some v.asked
          | _ => none) = [["42"], [], ["42"]] := by decide +kernel

end EpisodeGuide
