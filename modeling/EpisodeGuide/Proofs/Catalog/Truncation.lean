import EpisodeGuide.Proofs.Catalog.Lookup
import EpisodeGuide.Proofs.Session.Walk

/-! # Lists that break off

A fetch that breaks off hands out what was found until then. Nothing is cached when nothing was
found; otherwise the list that breaks off takes the place of the one before. -/

namespace EpisodeGuide

open Http Provider
open Database (newRows)

namespace Exchange

/-- A page that was read. -/
def Read (e : Exchange) : Prop :=
  e.request.method = .get ∧ ∃ page, e.content? = some page

/-- A login that was not accepted, or a page that could not be read. -/
def Failed (e : Exchange) : Prop :=
  match e.request.method with
  | .post => ¬ e.Accepted
  | .get => e.content? = none

end Exchange

/-- The last request failed. -/
def BreaksOff (es : List Exchange) : Prop :=
  ∃ e ∈ es.getLast?, e.Failed

variable {now : Int} {series endpoint : String} {auth auth' : Authenticator}
  {es : List Exchange} {page room : ℕ}

/-! ### Pages that are read -/

theorem TokenDerivation.not_read {token : Option Token}
    (h : TokenDerivation now auth es token auth') : ∀ e ∈ es, ¬ e.Read := by
  rintro e he ⟨hget, -⟩
  have hpost := h.login_only e he
  simp [hget] at hpost

theorem PageDerivation.not_read_of_error {fault : PageError}
    (h : PageDerivation now endpoint page auth es (.error fault) auth') : ∀ e ∈ es, ¬ e.Read := by
  generalize hresult : (Except.error fault : Except PageError Page) = result at h
  cases h with
  | noToken ht => exact ht.not_read
  | asked outcome ht =>
      refine List.forall_mem_append.mpr ⟨ht.not_read, List.forall_mem_singleton.mpr ?_⟩
      rintro ⟨-, body, hbody⟩
      rw [Exchange.content?_eq, ← hresult] at hbody
      cases hbody

theorem PageDerivation.last_read {body : Page}
    (h : PageDerivation now endpoint page auth es (.ok body) auth') :
    ∃ e ∈ es.getLast?, e.Read := by
  generalize hresult : (Except.ok body : Except PageError Page) = result at h
  cases h with
  | noToken => cases hresult
  | @asked _ t _ outcome ht =>
      refine ⟨⟨now, pageRequest endpoint t page, outcome⟩, by simp, rfl, body, ?_⟩
      rw [Exchange.content?_eq, ← hresult]
      rfl

theorem RequestDerivation.not_read_of_error {fault : PageError}
    (h : RequestDerivation now endpoint page auth es (.error fault) auth') :
    ∀ e ∈ es, ¬ e.Read := by
  generalize hresult : (Except.error fault : Except PageError Page) = result at h
  cases h with
  | once hp =>
      subst hresult
      exact hp.not_read_of_error
  | renewed hp hp' =>
      subst hresult
      exact List.forall_mem_append.mpr ⟨hp.not_read_of_error, hp'.not_read_of_error⟩
  | rejected hp hp' =>
      exact List.forall_mem_append.mpr ⟨hp.not_read_of_error, hp'.not_read_of_error⟩

theorem RequestDerivation.last_read {body : Page}
    (h : RequestDerivation now endpoint page auth es (.ok body) auth') :
    ∃ e ∈ es.getLast?, e.Read := by
  cases h with
  | once hp => exact hp.last_read
  | renewed hp hp' =>
      obtain ⟨e, he, hread⟩ := hp'.last_read
      exact ⟨e, by simp [List.getLast?_append, Option.mem_def.mp he], hread⟩

theorem Exchange.Read.not_failed {e : Exchange} (h : e.Read) : ¬ e.Failed := by
  obtain ⟨hget, body, hbody⟩ := h
  simp [Failed, hget, hbody]

theorem RequestDerivation.not_breaksOff {body : Page}
    (h : RequestDerivation now endpoint page auth es (.ok body) auth') : ¬ BreaksOff es := by
  obtain ⟨e, he, hread⟩ := h.last_read
  rintro ⟨e', he', hfailed⟩
  obtain rfl : e = e' := Option.mem_unique he he'
  exact hread.not_failed hfailed

/-- A walk that breaks off has found something exactly when it has read a page. -/
theorem WalkDerivation.found_eq_nil_iff {found : List Episode}
    (h : WalkDerivation now series endpoint room page auth es found auth') (hb : BreaksOff es) :
    found = [] ↔ ∀ e ∈ es, ¬ e.Read := by
  cases h with
  | limit => simp
  | stopped hp => exact iff_of_true rfl hp.not_read_of_error
  | last hp => exact (hp.not_breaksOff hb).elim
  | @next _ _ _ es es' body rest _ _ hp hne =>
      -- The first page has episodes, so it does not matter where the walk breaks off.
      have hfound : body.episodes series ++ rest ≠ [] := by simp [Page.episodes, hne]
      obtain ⟨e, he, hread⟩ := hp.last_read
      refine iff_of_false hfound fun hnone => ?_
      exact hnone e (List.mem_append_left _ (List.mem_of_mem_getLast? he)) hread

/-! ### Lookups over a client -/

namespace Catalog

variable {σ : Type} {send : Transport σ} {now clock : Int} {series : String} {refresh : Bool}
  {c : Catalog (Session σ)}

theorem asked_eq_nil_iff (hb : BreaksOff (c.exchanges send now series)) :
    c.asked (Session.source send now) series = [] ↔
      ∀ e ∈ c.exchanges send now series, ¬ e.Read := by
  let s : Session σ := { c.source with log := [] }
  cases hurl : s.client.listingUrl series with
  | error e =>
      obtain ⟨last, hlast, -⟩ := hb
      simp [exchanges, (Session.fetchExchanges_of_unusable send now series s e hurl).1, s] at hlast
  | ok endpoint =>
      exact (Session.fetchExchanges_derivation send now series endpoint s hurl).found_eq_nil_iff hb

end Catalog

/-- A lookup whose fetch breaks off. The answer is made of the pages that were read. When there
are none, or when they cannot be written, the cache stays as it was; otherwise they take the place
of what was cached for the series, and are served from the cache for one day. -/
structure TruncationSpec {σ : Type} (send : Transport σ) (now clock : Int) (series : String)
    (c : Catalog (Session σ)) (answer : Option (List Episode)) (cache : Database) : Prop where
  unread : (∀ e ∈ c.exchanges send now series, ¬ e.Read) → answer = some [] ∧ cache = c.cache
  read : (∃ e ∈ c.exchanges send now series, e.Read) → ∃ found,
    answer = some found ∧ found ≠ [] ∧
      found = ((List.range c.source.client.maxPages.toNat).flatMap fun n =>
        keptEpisodes series (finalPage? n (c.exchanges send now series))) ∧
      (∀ e, (c.cache.write clock series found).1 = .error e → cache = c.cache) ∧
      ((c.cache.write clock series found).1 = .ok () →
        cache.table = some (((c.cache.table.getD []).filter fun r => !r.isOf series) ++
          newRows clock series found) ∧
        ∀ clock' ≤ clock + 86400, cache.read clock' series = .hit (Episode.sorted found))
  others : (cache.table.getD []).filter (fun r => !r.isOf series) =
    (c.cache.table.getD []).filter fun r => !r.isOf series

/-- A fetch that breaks off replaces what is cached only by pages that were read. -/
theorem Catalog.get_truncationSpec {σ : Type} (send : Transport σ) (now clock : Int)
    (series : String) (refresh : Bool) (c : Catalog (Session σ))
    (hb : Text.isBlank series = false) (hasks : c.Asks clock series refresh)
    (hbreak : BreaksOff (c.exchanges send now series)) :
    TruncationSpec send now clock series c
      (c.get (Session.source send now) clock series refresh).1
      (c.get (Session.source send now) clock series refresh).2.cache := by
  rw [get_of_asks hb hasks]
  have hnil := asked_eq_nil_iff hbreak
  refine ⟨fun hunread => ?_, fun ⟨e, he, hread⟩ => ?_, ?_⟩
  · rw [hnil.mpr hunread]
    exact ⟨rfl, rfl⟩
  · have hne : c.asked (Session.source send now) series ≠ [] := fun h => hnil.mp h e he hread
    refine ⟨_, rfl, hne, asked_eq send now series c, fun e he => ?_, fun hok => ?_⟩
    · simp only [kept, if_neg hne, Database.write_of_error he]
    · simp only [kept, if_neg hne]
      refine ⟨?_, fun clock' hage => ?_⟩
      · rw [Database.write_of_ok hok, Database.replaced, Database.store_newRows]
      · rw [Database.read_written hok hne hage, asked_under]
  · unfold kept
    split
    · rfl
    · exact Database.filter_not_write c.cache

namespace Catalog

/-- A catalog with a list of two episodes. The provider has the first page of it once more, but
not the second one. -/
def lostPage : Catalog (Session Script) :=
  let page : Answer := .reply ⟨200, "\x7b\"data\":\x7b\"episodes\":" ++
    "[\x7b\"seasonNumber\":1,\"number\":1\x7d]\x7d,\"links\":\x7b\"next\":1\x7d\x7d"⟩
  ⟨(Session.start (some "key") defaultBaseUrl defaultMaxPages
      ⟨[page, .reply ⟨500, ""⟩], []⟩).setToken (some ⟨"tok", 86400⟩),
    ⟨some (newRows 0 "42" [⟨"42", 1, 1, "", ""⟩, ⟨"42", 1, 2, "", ""⟩]), []⟩, []⟩

theorem lostPage_breaksOff : BreaksOff (lostPage.exchanges Script.send 0 "42") := by
  have hlast : (lostPage.exchanges Script.send 0 "42").getLast? =
      some ⟨0, pageRequest "https://api4.thetvdb.com/v4/series/42/episodes/default"
        ⟨"tok", 86400⟩ 1, .ok ⟨500, ""⟩⟩ := by cbv
  exact ⟨_, hlast, rfl⟩

/-- The first page is read and the second one is not. -/
theorem get_truncationSpec_lostPage :
    lostPage.Asks 0 "42" true ∧ BreaksOff (lostPage.exchanges Script.send 0 "42") ∧
      TruncationSpec Script.send 0 0 "42" lostPage
        (lostPage.get (Session.source Script.send 0) 0 "42" true).1
        (lostPage.get (Session.source Script.send 0) 0 "42" true).2.cache :=
  ⟨.inl rfl, lostPage_breaksOff,
    get_truncationSpec Script.send 0 0 "42" true lostPage (by decide +kernel) (.inl rfl)
      lostPage_breaksOff⟩

/-- The list that breaks off replaces the longer one and is served a day later. -/
theorem get_lostPage_replaces :
    BreaksOff (lostPage.exchanges Script.send 0 "42") ∧
      (lostPage.get (Session.source Script.send 0) 0 "42" true).2.cache.table ≠
        lostPage.cache.table ∧
      (lostPage.get (Session.source Script.send 0) 0 "42" true).2.cache.table =
        some (newRows 0 "42" [⟨"42", 1, 1, "", ""⟩]) ∧
      (lostPage.get (Session.source Script.send 0) 0 "42" true).2.cache.read 86400 "42" =
        .hit [⟨"42", 1, 1, "", ""⟩] := by
  have hcache : (lostPage.get (Session.source Script.send 0) 0 "42" true).2.cache =
      ⟨some (newRows 0 "42" [⟨"42", 1, 1, "", ""⟩]), []⟩ := by cbv
  rw [hcache]
  exact ⟨lostPage_breaksOff, by decide, rfl, by decide +kernel⟩

end Catalog

end EpisodeGuide
