import EpisodeGuide.Catalog.Basic
import EpisodeGuide.Proofs.Cache.Transaction
import EpisodeGuide.Proofs.Session.Walk

/-! # What a lookup does

A lookup is answered from the cache, or it asks the source and keeps what it gets. Both are told
by equations: the answer, the source, the cache and the log that a lookup leaves. -/

namespace EpisodeGuide

namespace Catalog

variable {σ : Type} {ask : Source σ} {clock : Int} {series : String} {refresh : Bool}
  {c : Catalog σ}

def asked (ask : Source σ) (series : String) (c : Catalog σ) : List Episode :=
  (ask series c.source).1.1

def askedEvents (ask : Source σ) (series : String) (c : Catalog σ) : List Event :=
  (ask series c.source).1.2

def kept (clock : Int) (series : String) (episodes : List Episode) (db : Database) : Database :=
  if episodes = [] then db else (db.write clock series episodes).2

def keptEvents (clock : Int) (series : String) (episodes : List Episode) (db : Database) :
    List Event :=
  if episodes = [] then []
  else
    match (db.write clock series episodes).1 with
    | .ok () => [.cacheWritten series episodes.length]
    | .error e => [.cacheWriteFailed series e]

/-- The events of a look into the cache that the source is asked behind. -/
def missEvents (series : String) (found : Lookup) : List Event :=
  match found with
  | .failed e => [.cacheReadFailed series e]
  | found => found.events series

/-- A lookup asks the source when it passes the cache over or finds no list there. -/
def Asks (clock : Int) (series : String) (refresh : Bool) (c : Catalog σ) : Prop :=
  refresh = true ∨ ∀ episodes, c.cache.read clock series ≠ .hit episodes

theorem exists_hit_of_not_asks {clock : Int} {series : String} {refresh : Bool} {c : Catalog σ}
    (h : ¬ c.Asks clock series refresh) :
    refresh = false ∧ ∃ episodes, c.cache.read clock series = .hit episodes := by
  simpa [Asks] using h

theorem keep_eq (clock : Int) (series : String) (episodes : List Episode) (c : Catalog σ) :
    c.keep clock series episodes =
      ⟨c.source, kept clock series episodes c.cache,
        c.log ++ keptEvents clock series episodes c.cache⟩ := by
  obtain ⟨source, db, log⟩ := c
  by_cases hempty : episodes = []
  · simp [keep, kept, keptEvents, hempty]
  · rcases hwrite : db.write clock series episodes with ⟨_ | ⟨⟩, db'⟩ <;>
      simp [keep, kept, keptEvents, hempty, Catalog.write, hwrite, note]

theorem fetch_eq (ask : Source σ) (clock : Int) (series : String) (c : Catalog σ) :
    c.fetch ask clock series =
      (c.asked ask series,
        ⟨(ask series c.source).2, kept clock series (c.asked ask series) c.cache,
          c.log ++ c.askedEvents ask series ++
            keptEvents clock series (c.asked ask series) c.cache⟩) := by
  simp only [fetch, keep_eq]
  rfl

theorem get_of_blank (h : Text.isBlank series = true) :
    c.get ask clock series refresh = (none, c) := by
  simp [get, h]

/-- A list that is found in the cache is the answer. -/
theorem get_of_hit {episodes : List Episode} (hb : Text.isBlank series = false)
    (h : c.cache.read clock series = .hit episodes) :
    c.get ask clock series false =
      (some episodes, { c with log := c.log ++ [.cacheHit series episodes.length] }) := by
  simp [get, hb, read, h, Lookup.events, note]

/-- Otherwise the answer is what the source hands out, and the cache keeps it. -/
theorem get_of_asks (hb : Text.isBlank series = false) (h : c.Asks clock series refresh) :
    c.get ask clock series refresh =
      (some (c.asked ask series),
        ⟨(ask series c.source).2, kept clock series (c.asked ask series) c.cache,
          c.log ++ (if refresh then [] else missEvents series (c.cache.read clock series)) ++
            c.askedEvents ask series ++
            keptEvents clock series (c.asked ask series) c.cache⟩) := by
  cases refresh with
  | true => simp [get, hb, fetch_eq]
  | false =>
      have hmiss : ∀ episodes, c.cache.read clock series ≠ .hit episodes := by simpa [Asks] using h
      cases hread : c.cache.read clock series with
      | hit episodes => exact (hmiss episodes hread).elim
      | absent | expired | failed e =>
          simp [get, hb, read, hread, fetch_eq, note, missEvents, Lookup.events, asked, askedEvents]

/-- Only a blank identifier goes without an answer. -/
theorem get_eq_none_iff :
    (c.get ask clock series refresh).1 = none ↔ Text.isBlank series = true := by
  cases hb : Text.isBlank series with
  | true => simp [get_of_blank hb]
  | false =>
      refine iff_of_false ?_ (by simp)
      by_cases h : c.Asks clock series refresh
      · simp [get_of_asks hb h]
      · obtain ⟨rfl, episodes, hread⟩ := exists_hit_of_not_asks h
        simp [get_of_hit hb hread]

/-! ### Asking a client -/

section Client

variable (send : Http.Transport σ) (now : Int) (series : String) (c : Catalog (Session σ))

def exchanges : List Exchange :=
  Session.fetchExchanges send now series { c.source with log := [] }

/-- A client hands out the episodes of the pages that were read. -/
theorem asked_eq :
    c.asked (Session.source send now) series =
      (List.range c.source.client.maxPages.toNat).flatMap fun n =>
        keptEpisodes series (finalPage? n (c.exchanges send now series)) := by
  let s : Session σ := { c.source with log := [] }
  change (s.fetch send now series).1 = (List.range s.client.maxPages.toNat).flatMap fun n =>
    keptEpisodes series (finalPage? n (s.fetchExchanges send now series))
  cases hurl : s.client.listingUrl series with
  | error e =>
      rw [(Session.fetchExchanges_of_unusable send now series s e hurl).1]
      simp [Session.fetch, hurl, finalPage?, keptEpisodes]
  | ok endpoint =>
      exact (Session.fetchExchanges_derivation send now series endpoint s hurl).walkSpec.listed

/-- The episodes that a client hands out are under the name of the series already. -/
theorem asked_under :
    (c.asked (Session.source send now) series).map (Episode.under series) =
      c.asked (Session.source send now) series := by
  refine List.map_congr_left (fun e he => ?_) |>.trans (List.map_id _)
  rw [asked_eq] at he
  obtain ⟨n, -, hn⟩ := List.mem_flatMap.mp he
  obtain ⟨entry, -, rfl⟩ := List.mem_map.mp hn
  rfl

end Client

end Catalog

end EpisodeGuide
