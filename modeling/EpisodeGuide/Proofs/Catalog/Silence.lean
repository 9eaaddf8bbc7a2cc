import EpisodeGuide.Proofs.Cache.Transaction
import EpisodeGuide.Proofs.Catalog.Lookup
import EpisodeGuide.Proofs.Session.Silence

/-! # Silent lookups

A lookup that logs no warning and no error was served from the cache, or it read the whole listing,
left nothing out and cached what it found. Whatever goes wrong on the way is logged. -/

namespace EpisodeGuide

open Http Provider

namespace ReadThrough

variable {last limit : ℕ} {es : List Exchange}

theorem finalPage?_later (h : ReadThrough 0 last es) {n : ℕ} (hn : last < n) :
    finalPage? n es = none := by
  refine finalPage?_of_notMem fun hmem => ?_
  rw [h.pages, List.mem_range'_1] at hmem
  omega

/-- All episodes of a listing are on its pages up to the last one. -/
theorem listed (h : ReadThrough 0 last es) (hlast : last < limit) (series : String) :
    ((List.range limit).flatMap fun n => keptEpisodes series (finalPage? n es)) =
      (List.range (last + 1)).flatMap fun n => keptEpisodes series (finalPage? n es) := by
  obtain ⟨room, rfl⟩ := Nat.exists_eq_add_of_lt hlast
  have hrest : (List.map (last + 1 + ·) (List.range room)).flatMap
      (fun n => keptEpisodes series (finalPage? n es)) = [] := by
    refine List.flatMap_eq_nil_iff.mpr fun n hn => ?_
    obtain ⟨k, -, rfl⟩ := List.mem_map.mp hn
    rw [h.finalPage?_later (by omega)]
    rfl
  rw [Nat.add_right_comm, List.range_add, List.flatMap_append, hrest, List.append_nil]

end ReadThrough

namespace Catalog

variable {σ : Type} {send : Transport σ} {now clock : Int} {series : String} {refresh : Bool}

/-- A lookup that gets the whole listing. The storage fails neither before nor behind the fetch, the
pages are read up to the one that ends the listing, the answer has every episode on them, and the
rows of the series are these episodes, unless there are none. -/
structure WholeListing (send : Transport σ) (now clock : Int) (series : String) (refresh : Bool)
    (c : Catalog (Session σ)) (last : ℕ) (answer : Option (List Episode))
    (after : Catalog (Session σ)) : Prop where
  asks : c.Asks clock series refresh
  readable : refresh = false → ∀ e, c.cache.read clock series ≠ .failed e
  bounded : last < c.source.client.maxPages.toNat
  pages : ReadThrough 0 last (c.exchanges send now series)
  listed : answer = some ((List.range (last + 1)).flatMap fun n =>
    keptEpisodes series (finalPage? n (c.exchanges send now series)))
  cached : ∀ episodes, answer = some episodes → episodes ≠ [] →
    (c.cache.write clock series episodes).1 = .ok () ∧
      (after.cache.table.getD []).filter (Row.isOf series) =
        Database.newRows clock series episodes

/-! ### Silence of the parts -/

theorem silent_missEvents {found : Lookup} :
    Silent (missEvents series found) ↔ ∀ e, found ≠ .failed e := by
  cases found <;> simp [missEvents, Lookup.events, Event.level]

theorem silent_keptEvents {episodes : List Episode} {db : Database} :
    Silent (keptEvents clock series episodes db) ↔
      (episodes ≠ [] → (db.write clock series episodes).1 = .ok ()) := by
  unfold keptEvents
  split
  · next hempty => simp [hempty]
  · next hne => cases (db.write clock series episodes).1 <;> simp [hne, Event.level]

theorem silent_askedEvents (c : Catalog (Session σ)) :
    Silent (c.askedEvents (Session.source send now) series) ↔
      ∃ last < c.source.client.maxPages.toNat,
        ReadThrough 0 last (c.exchanges send now series) := by
  obtain ⟨events, hlog, hsilent⟩ := Session.fetch_log send now series { c.source with log := [] }
  have hevents : c.askedEvents (Session.source send now) series = events := hlog
  rw [hevents]
  exact hsilent

theorem filter_kept {episodes : List Episode} {db : Database} (hne : episodes ≠ [])
    (hok : (db.write clock series episodes).1 = .ok ()) :
    ((kept clock series episodes db).table.getD []).filter (Row.isOf series) =
      Database.newRows clock series episodes := by
  rw [kept, if_neg hne, Database.write_of_ok hok, Database.filter_replaced]

/-! ### Lookups -/

/-- A lookup is silent exactly when it is served from the cache or gets the whole listing. -/
theorem get_silent_iff (send : Transport σ) (now clock : Int) (series : String) (refresh : Bool)
    (c : Catalog (Session σ)) (hb : Text.isBlank series = false) :
    ∃ events, (c.get (Session.source send now) clock series refresh).2.log = c.log ++ events ∧
      (Silent events ↔
        (refresh = false ∧ ∃ episodes, c.cache.read clock series = .hit episodes ∧
          (c.get (Session.source send now) clock series refresh).1 = some episodes) ∨
        ∃ last, WholeListing send now clock series refresh c last
          (c.get (Session.source send now) clock series refresh).1
          (c.get (Session.source send now) clock series refresh).2) := by
  by_cases hasks : c.Asks clock series refresh
  · have hlook : Silent (if refresh then [] else missEvents series (c.cache.read clock series)) ↔
        (refresh = false → ∀ e, c.cache.read clock series ≠ .failed e) := by
      cases refresh <;> simp [silent_missEvents]
    rw [get_of_asks hb hasks]
    refine ⟨_, by simp only [List.append_assoc]; rfl, ?_⟩
    rw [silent_append, silent_append, hlook, silent_askedEvents, silent_keptEvents]
    constructor
    · rintro ⟨hreadable, ⟨last, hlast, hpages⟩, hwrite⟩
      refine .inr ⟨last, hasks, hreadable, hlast, hpages, ?_, ?_⟩
      · rw [asked_eq, hpages.listed hlast]
      · rintro _ ⟨rfl⟩ hne
        exact ⟨hwrite hne, filter_kept hne (hwrite hne)⟩
    · rintro (⟨rfl, episodes, hread, -⟩ | ⟨last, h⟩)
      · exact (hasks.resolve_left Bool.false_ne_true episodes hread).elim
      · exact ⟨h.readable, ⟨last, h.bounded, h.pages⟩, fun hne => (h.cached _ rfl hne).1⟩
  · obtain ⟨rfl, episodes, hread⟩ : refresh = false ∧
        ∃ episodes, c.cache.read clock series = .hit episodes := by simpa [Asks] using hasks
    rw [get_of_hit hb hread]
    exact ⟨_, rfl, iff_of_true (by simp [Event.level]) (.inl ⟨rfl, episodes, hread, rfl⟩)⟩

/-- A catalog whose provider has one page with one episode. -/
def singlePage : Catalog (Session Script) :=
  let page : Answer := .reply ⟨200, "\x7b\"data\":\x7b\"episodes\":[\x7b\"number\":7\x7d]\x7d\x7d"⟩
  ⟨(Session.start (some "key") defaultBaseUrl defaultMaxPages ⟨[page], []⟩).setToken
      (some ⟨"tok", 86400⟩), ⟨some [], []⟩, []⟩

/-- Its lookup logs nothing but what was fetched and cached, so it got the whole listing. -/
theorem get_silent_singlePage :
    Text.isBlank "42" = false ∧
      (singlePage.get (Session.source Script.send 0) 0 "42" true).2.log =
        [.fetched "42" 1, .cacheWritten "42" 1] ∧
      ∃ last, WholeListing Script.send 0 0 "42" true singlePage last
        (singlePage.get (Session.source Script.send 0) 0 "42" true).1
        (singlePage.get (Session.source Script.send 0) 0 "42" true).2 := by
  have hb : Text.isBlank "42" = false := by decide +kernel
  have hlog : (singlePage.get (Session.source Script.send 0) 0 "42" true).2.log =
      [.fetched "42" 1, .cacheWritten "42" 1] := by cbv
  obtain ⟨events, hevents, hsilent⟩ := get_silent_iff Script.send 0 0 "42" true singlePage hb
  obtain rfl : events = [.fetched "42" 1, .cacheWritten "42" 1] := by
    rw [hlog] at hevents
    exact hevents.symm
  rcases hsilent.mp (by simp [Silent, Event.level]) with ⟨hrefresh, -⟩ | hwhole
  · cases hrefresh
  · exact ⟨hb, hlog, hwhole⟩

end Catalog

end EpisodeGuide
