import EpisodeGuide.Http.Script
import EpisodeGuide.Proofs.Catalog.Secrecy
import EpisodeGuide.Proofs.Catalog.Visits
import EpisodeGuide.Proofs.Session.Settings

/-! # Catalogs without a key

A catalog whose key is missing or blank serves its cache and nothing else: it never gets a token,
so it never sends a request and never has a list to write. -/

namespace EpisodeGuide

open Http

variable {σ ι : Type}

namespace Catalog

/-- A catalog that has just been set up with a key, by itself or from settings. -/
inductive OpenedWith (apiKey : Option String) : Catalog (Session σ) → Prop where
  | start (baseUrl maxPages db link) : OpenedWith apiKey (start apiKey baseUrl maxPages db link)
  | library {config surroundings disk link library disk'}
      (h : Library.ofConfig config surroundings disk link = (.ok library, disk'))
      (hkey : config.apiKey = apiKey) : OpenedWith apiKey library.catalog

def suppliedLink (channel : Channel σ ι) (link : σ) : CatalogStep ι → σ
  | .move _ => link
  | .deliver items => channel.deliver items link

/-- A run that lives on the cache: there is never a token, no lookup sends a request, the link gets
what is delivered and loses nothing, and lookups change no row. They answer with the list that the
cache has, unless it is passed over, and with no episodes otherwise. -/
structure CacheOnlySpec (channel : Channel σ ι) (steps : List (CatalogStep ι)) (clock : Int)
    (c : Catalog (Session σ)) : Prop where
  tokenless : ∀ made ∈ c.trace channel steps clock, made.2.source.client.auth.token = none
  unsent : ∀ v ∈ c.visits channel steps clock, v.exchanges = []
  unused : (c.leave channel steps clock).source.link =
    steps.foldl (suppliedLink channel) c.source.link
  unchanged : ∀ v ∈ c.visits channel steps clock, v.after.cache = v.before.cache
  cached : ∀ v ∈ c.visits channel steps clock, Text.isBlank v.series = false →
    v.refresh = false → ∀ episodes, v.before.cache.read v.time v.series = .hit episodes →
      v.answer = some episodes
  empty : ∀ v ∈ c.visits channel steps clock, Text.isBlank v.series = false →
    (v.refresh = true ∨ ∀ episodes, v.before.cache.read v.time v.series ≠ .hit episodes) →
      v.answer = some []

/-! ### One lookup -/

section Lookup

variable {send : Transport σ} {now : Int} {series : String} {refresh : Bool}
  {c : Catalog (Session σ)}

theorem source_of_keyless (h : c.source.client.auth.Keyless) :
    c.exchanges send now series = [] ∧ c.asked (Session.source send now) series = [] ∧
      (Session.source send now series c.source).2.link = c.source.link := by
  obtain ⟨hsent, hfound, -, hlink⟩ :=
    Session.fetch_of_keyless send now series { c.source with log := [] } h
  exact ⟨hsent, hfound, hlink⟩

theorem lookupExchanges_of_keyless (h : c.source.client.auth.Keyless) :
    c.lookupExchanges send now series refresh = [] := by
  rcases lookupExchanges_cases with hnone | hfetch
  · exact hnone
  · exact hfetch.trans (source_of_keyless h).1

theorem get_of_keyless (h : c.source.client.auth.Keyless) :
    (c.get (Session.source send now) now series refresh).2.source.link = c.source.link ∧
      (c.get (Session.source send now) now series refresh).2.cache = c.cache := by
  obtain ⟨-, hasked, hlink⟩ := source_of_keyless h
  cases hb : Text.isBlank series with
  | true =>
      rw [get_of_blank hb]
      exact ⟨rfl, rfl⟩
  | false =>
      by_cases hasks : c.Asks now series refresh
      · rw [get_of_asks hb hasks, hasked]
        exact ⟨hlink, rfl⟩
      · obtain ⟨rfl, episodes, hread⟩ := exists_hit_of_not_asks hasks
        rw [get_of_hit hb hread]
        exact ⟨rfl, rfl⟩

theorem answer_of_keyless (h : c.source.client.auth.Keyless) (hb : Text.isBlank series = false)
    (hasks : c.Asks now series refresh) :
    (c.get (Session.source send now) now series refresh).1 = some [] := by
  obtain ⟨-, hasked, -⟩ := source_of_keyless h
  rw [get_of_asks hb hasks, hasked]

end Lookup

/-! ### Runs -/

theorem OpenedWith.keyless {apiKey : Option String} {c : Catalog (Session σ)}
    (h : OpenedWith apiKey c) (hkey : ∀ key ∈ apiKey, Text.isBlank key = true) :
    c.source.client.auth.Keyless := by
  cases h with
  | start baseUrl => exact Authenticator.new_keyless hkey baseUrl
  | @library config surroundings disk link library disk' hopen hconfig =>
      have husable : config.usableKey = none := by
        rw [Config.usableKey, hconfig, Text.nonBlank?_eq_none_iff.mpr hkey, Option.map_none]
      change library.source.client.auth.Keyless
      rw [Library.source_of_ofConfig hopen]
      exact Authenticator.new_keyless (by simp [husable]) config.baseUrl

/-- A fetch leaves a client without a key as it is. -/
theorem keyless_lasts (send : Transport σ) : ∀ now series (s : Session σ),
    s.client.auth.Keyless → (s.fetch send now series).2.client.auth.Keyless := by
  intro now series s h
  rw [(Session.fetch_of_keyless send now series s h).2.2.1]
  exact h

theorem leave_of_keyless (channel : Channel σ ι) (steps : List (CatalogStep ι)) (clock : Int)
    {c : Catalog (Session σ)} (h : c.source.client.auth.Keyless) :
    (c.leave channel steps clock).source.link =
      steps.foldl (suppliedLink channel) c.source.link := by
  induction steps generalizing clock c with
  | nil => rfl
  | cons step steps ih =>
      cases step with
      | deliver items => exact ih clock h
      | move m =>
          have hmade := make_client (P := fun client => client.auth.Keyless)
            (keyless_lasts channel.send) clock m h
          have hlink : (c.make (Session.source channel.send clock) clock m).2.source.link =
              c.source.link := by
            rcases make_cases clock m with ⟨series, refresh, rfl⟩ | hsource
            · exact (get_of_keyless h).1
            · rw [hsource]
          rw [leave, ih _ hmade, hlink]
          rfl

/-- A catalog without a usable key lives on its cache, whatever is done with it. -/
theorem OpenedWith.cacheOnlySpec {apiKey : Option String} {c : Catalog (Session σ)}
    (h : OpenedWith apiKey c) (hkey : ∀ key ∈ apiKey, Text.isBlank key = true)
    (channel : Channel σ ι) (steps : List (CatalogStep ι)) (clock : Int) :
    CacheOnlySpec channel steps clock c := by
  have hkeyless := h.keyless hkey
  have htrace := forall_trace (P := fun client => client.auth.Keyless)
    (keyless_lasts channel.send) steps clock hkeyless
  have hvisits := forall_visits (P := fun client => client.auth.Keyless)
    (keyless_lasts channel.send) steps clock hkeyless
  refine ⟨fun made hmade => (htrace made hmade).token, fun v hv => ?_,
    leave_of_keyless channel steps clock hkeyless, fun v hv => ?_, ?_, ?_⟩
  · obtain ⟨before, now, series, refresh, hbefore, rfl⟩ := hvisits v hv
    exact lookupExchanges_of_keyless hbefore
  · obtain ⟨before, now, series, refresh, hbefore, rfl⟩ := hvisits v hv
    exact (get_of_keyless hbefore).2
  · intro v hv hb hrefresh episodes hread
    obtain ⟨before, now, series, refresh, hbefore, rfl⟩ := hvisits v hv
    obtain rfl : refresh = false := hrefresh
    exact congrArg Prod.fst (get_of_hit hb hread)
  · intro v hv hb hasks
    obtain ⟨before, now, series, refresh, hbefore, rfl⟩ := hvisits v hv
    exact answer_of_keyless hbefore hb hasks

/-- A key of white space: a list that was cached is served, and a refresh finds nothing, although
the provider would let the client in. -/
theorem OpenedWith.cacheOnlySpec_whiteSpace :
    let login : Answer :=
      .reply ⟨200, "\x7b\"status\":\"success\",\"data\":\x7b\"token\":\"tok\"\x7d\x7d"⟩
    let pilot : Episode := ⟨"42", 1, 1, "Pilot", ""⟩
    let steps : List (CatalogStep Answer) :=
      [.deliver [login], .move (.write "42" [pilot]), .move (.get "42" false),
        .move (.get "42" true)]
    let c : Catalog (Session Script) :=
      Catalog.start (some " \t\u2003") defaultBaseUrl 10 ⟨some [], []⟩ ⟨[], []⟩
    (∀ key ∈ some " \t\u2003", Text.isBlank key = true) ∧
      CacheOnlySpec (Script.channel id) steps 0 c ∧
      (c.visits (Script.channel id) steps 0).map ClientVisit.answer = [some [pilot], some []] := by
  intro login pilot steps c
  have hkey : ∀ key ∈ some " \t\u2003", Text.isBlank key = true := by
    intro key hsome
    obtain rfl : " \t\u2003" = key := Option.some.inj hsome
    decide +kernel
  have hopen : OpenedWith (some " \t\u2003") c := .start _ _ _ _
  exact ⟨hkey, hopen.cacheOnlySpec hkey (Script.channel id) steps 0, by cbv⟩

end Catalog

end EpisodeGuide
