import EpisodeGuide.Proofs.Session.Execution
import EpisodeGuide.Proofs.Session.Walk

/-! # Silent fetches

The log of a fetch is without warnings and errors exactly when the whole listing was read, page by
page up to its end, and no page was refused. -/

namespace EpisodeGuide

open Http Provider

/-- Events without a warning and without an error. -/
def Silent (events : List Event) : Prop :=
  ∀ e ∈ events, e.level ≠ .warn ∧ e.level ≠ .error

@[simp] theorem silent_nil : Silent [] :=
  List.forall_mem_nil _

@[simp] theorem silent_append {xs ys : List Event} :
    Silent (xs ++ ys) ↔ Silent xs ∧ Silent ys :=
  List.forall_mem_append

@[simp] theorem silent_singleton {e : Event} :
    Silent [e] ↔ e.level ≠ .warn ∧ e.level ≠ .error :=
  List.forall_mem_singleton

/-! ### Listings that are read as a whole -/

/-- The pages from `first` on are read as far as the listing goes, `more` of them behind the first.
Each is asked for once, and only the last one has no episodes or no next one. -/
structure ReadThrough (first more : ℕ) (es : List Exchange) : Prop where
  pages : pagesAsked es = List.range' first (more + 1)
  unrefused : ∀ e ∈ es, ¬ e.Refused
  onward : ∀ n, first ≤ n → n < first + more →
    ∃ page, finalPage? n es = some page ∧ page.usableEntries ≠ [] ∧ page.hasNext = true
  ended : ∃ page, finalPage? (first + more) es = some page ∧
    (page.usableEntries = [] ∨ page.hasNext = false)

namespace ReadThrough

variable {first more page : ℕ} {es es' : List Exchange} {body : Page}

theorem not_nil : ¬ ReadThrough first more [] := by
  intro h
  have hpages := h.pages
  simp [pagesAsked, List.range'_succ] at hpages

theorem not_of_error {e : PageError} (hblock : PageBlock page es (.error e)) :
    ¬ ReadThrough page more es := by
  intro h
  have hunread : finalPage? page es = none := by
    simpa [Except.toOption] using hblock.finalPage?_self page
  cases more with
  | zero =>
      obtain ⟨body, hbody, -⟩ := h.ended
      rw [Nat.add_zero, hunread] at hbody
      cases hbody
  | succ fewer =>
      obtain ⟨body, hbody, -⟩ := h.onward page le_rfl (by omega)
      rw [hunread] at hbody
      cases hbody

theorem last_iff (hblock : PageBlock page es (.ok body))
    (hend : body.usableEntries = [] ∨ body.hasNext = false) :
    ReadThrough page more es ↔
      more = 0 ∧ pagesAsked es = [page] ∧ ∀ e ∈ es, ¬ e.Refused := by
  constructor
  · intro h
    have hmore : more = 0 := by
      by_contra hne
      have hnext : page + 1 ∈ pagesAsked es := by
        rw [h.pages, List.mem_range'_1]
        omega
      have heq := hblock.eq_of_mem hnext
      omega
    subst hmore
    exact ⟨rfl, h.pages, h.unrefused⟩
  · rintro ⟨rfl, hpages, hunrefused⟩
    refine ⟨hpages, hunrefused, fun n hlow hhigh => by omega, body, ?_, hend⟩
    simpa [Except.toOption] using hblock.finalPage?_self page

theorem next_iff (hblock : PageBlock page es (.ok body)) (hne : body.usableEntries ≠ [])
    (hnext : body.hasNext = true) (hlater : ∀ n ∈ pagesAsked es', page < n) :
    ReadThrough page more (es ++ es') ↔
      (pagesAsked es = [page] ∧ ∀ e ∈ es, ¬ e.Refused) ∧
        ∃ fewer, more = fewer + 1 ∧ ReadThrough (page + 1) fewer es' := by
  have hfresh : page ∉ pagesAsked es' := fun hmem => Nat.lt_irrefl _ (hlater page hmem)
  have hfirst : finalPage? page (es ++ es') = some body := by
    simpa [Except.toOption] using hblock.finalPage?_eq hfresh
  have hrest : ∀ n, page < n → finalPage? n (es ++ es') = finalPage? n es' := fun n hn =>
    finalPage?_append_right fun hmem => by
      have heq := hblock.eq_of_mem hmem
      omega
  constructor
  · intro h
    have hmore : more ≠ 0 := by
      rintro rfl
      obtain ⟨body', hbody, hend⟩ := h.ended
      obtain rfl : body = body' := Option.some.inj (hfirst.symm.trans hbody)
      rcases hend with hempty | hlast
      · exact hne hempty
      · simp [hlast] at hnext
    obtain ⟨fewer, rfl⟩ := Nat.exists_eq_succ_of_ne_zero hmore
    have hpages := h.pages
    rw [pagesAsked_append, Nat.succ_eq_add_one, List.range'_succ] at hpages
    -- The first page was asked for once: a second request would stand in the next page's place.
    obtain ⟨hone, htail⟩ : pagesAsked es = [page] ∧
        pagesAsked es' = List.range' (page + 1) (fewer + 1) := by
      have hasked := hblock.mem_of_ok
      rcases hblock.pagesAsked_eq with hnone | hone | htwo
      · simp [hnone] at hasked
      · exact ⟨hone, by simpa [hone] using hpages⟩
      · simp [htwo, List.range'_succ] at hpages
    obtain ⟨hunrefused, hunrefused'⟩ := List.forall_mem_append.mp h.unrefused
    refine ⟨⟨hone, hunrefused⟩, fewer, rfl, htail, hunrefused', fun n hlow hhigh => ?_, ?_⟩
    · rw [← hrest n hlow]
      exact h.onward n (by omega) (by omega)
    · rw [← hrest _ (by omega), Nat.add_right_comm]
      exact h.ended
  · rintro ⟨⟨hone, hunrefused⟩, fewer, rfl, h⟩
    refine ⟨?_, List.forall_mem_append.mpr ⟨hunrefused, h.unrefused⟩, fun n hlow hhigh => ?_, ?_⟩
    · rw [pagesAsked_append, hone, h.pages, List.range'_succ]
      rfl
    · rcases Nat.eq_or_lt_of_le hlow with rfl | hlow
      · exact ⟨body, hfirst, hne, hnext⟩
      · rw [hrest n hlow]
        exact h.onward n hlow (by omega)
    · have hended := h.ended
      rw [← hrest _ (by omega), Nat.add_right_comm] at hended
      exact hended

end ReadThrough

/-! ### What is logged on the way -/

theorem pageOf_ne_noToken (outcome : Except TransportError Reply) :
    pageOf outcome ≠ .error .noToken := by
  intro h
  cases outcome with
  | error e => cases h
  | ok reply =>
      simp only [pageOf, readPage] at h
      split at h
      · split at h <;> cases h
      · cases h
      · cases h

namespace Session

variable {σ : Type} (send : Transport σ) (now : Int)

/-- Getting a token is silent exactly when there is one. -/
theorem getToken_log (s : Session σ) :
    ∃ events, (s.getToken send now).2.log = s.log ++ events ∧
      (Silent events ↔ (s.getToken send now).1 ≠ none) := by
  cases hheld : s.client.auth.currentToken now with
  | some t =>
      rw [getToken_of_held hheld]
      exact ⟨[], by simp⟩
  | none =>
      cases hkey : s.client.auth.apiKey with
      | none =>
          rw [getToken_of_no_key hheld hkey]
          exact ⟨[.keyMissing], by simp [note, Event.level]⟩
      | some key =>
          cases hout : Authenticator.conclude now
            (send (s.client.auth.loginRequest key) s.link).1 with
          | error e =>
              rw [getToken_of_failed hheld hkey hout]
              exact ⟨[.loginFailed e], by simp [note, exchanged, Event.level]⟩
          | ok t =>
              rw [getToken_of_accepted hheld hkey hout]
              exact ⟨[.authenticated], by simp [note, setToken, exchanged, Event.level]⟩

/-- Asking for a page once is silent exactly when there is a token. -/
theorem getPage_log (endpoint : String) (page : ℕ) (s : Session σ) :
    ∃ events, (s.getPage send now endpoint page).2.log = s.log ++ events ∧
      (Silent events ↔ (s.getPage send now endpoint page).1 ≠ .error .noToken) := by
  obtain ⟨events, hlog, hsilent⟩ := getToken_log send now s
  refine ⟨events, ?_⟩
  rcases htoken : s.getToken send now with ⟨_ | t, m⟩
  · simp only [htoken] at hlog hsilent
    simpa [getPage, htoken, hlog] using hsilent
  · simp only [htoken] at hlog hsilent
    have hquiet : Silent events := hsilent.mpr (by simp)
    rcases hsend : send (pageRequest endpoint t page) m.link with ⟨e | reply, link⟩
    · simp [getPage, htoken, hsend, hlog, hquiet]
    · have hread : readPage reply ≠ .error .noToken := pageOf_ne_noToken (.ok reply)
      simp [getPage, htoken, hsend, hlog, hquiet, hread]

end Session

/-- A page that is asked for and not refused is asked for once. -/
theorem PageDerivation.asked_once_iff {now : Int} {endpoint : String} {page : ℕ}
    {auth auth' : Authenticator} {es : List Exchange} {result : Except PageError Page}
    (h : PageDerivation now endpoint page auth es result auth') :
    (pagesAsked es = [page] ∧ ∀ e ∈ es, ¬ e.Refused) ↔
      result ≠ .error .noToken ∧ result ≠ .error .unauthorized := by
  have hlogins {ls : List Exchange} (hls : ∀ e ∈ ls, e.request.method = .post) :
      ∀ e ∈ ls, ¬ e.Refused := fun e he hrefused => by
    have hpost := hls e he
    simp [hrefused.1] at hpost
  rcases h.forms with ⟨rfl, hls⟩ | ⟨ls, ask, rfl, hls, hget, hask, rfl, -⟩
  · have hnone : pagesAsked es = [] := pagesAsked_of_post fun e he => (hls e he).1
    simp [hnone]
  · have hone : pagesAsked (ls ++ [ask]) = [page] := pagesAsked_append_cons hls hask
    rw [List.forall_mem_append, List.forall_mem_singleton, refused_iff_pageOf hget]
    constructor
    · exact fun h => ⟨pageOf_ne_noToken _, h.2.2⟩
    · exact fun h => ⟨hone, hlogins hls, h.2⟩

/-- A page that is asked for and then left for want of a token was refused. -/
theorem PageBlock.refused_of_noToken {page : ℕ} {es : List Exchange}
    (h : PageBlock page es (.error .noToken)) (hasked : page ∈ pagesAsked es) :
    ∃ e ∈ es, e.Refused := by
  generalize hresult : (Except.error .noToken : Except PageError Page) = result at h
  cases h with
  | missing hls =>
      have hnone : pagesAsked es = [] := pagesAsked_of_post fun e he => (hls e he).1
      simp [hnone] at hasked
  | once | renewed => exact (pageOf_ne_noToken _ hresult.symm).elim
  | abandoned _ _ hrefused => exact ⟨_, by simp, hrefused⟩

namespace Session

variable {σ : Type} (send : Transport σ) (now : Int)

/-- Asking for a page is silent exactly when it is asked for once and not refused. -/
theorem requestPage_log (endpoint : String) (page : ℕ) (s : Session (Recorded σ)) :
    ∃ es events, (s.requestPage (recording send now) now endpoint page).2.link.past =
        s.link.past ++ es ∧
      (s.requestPage (recording send now) now endpoint page).2.log = s.log ++ events ∧
      PageBlock page es (s.requestPage (recording send now) now endpoint page).1 ∧
      (Silent events ↔ pagesAsked es = [page] ∧ ∀ e ∈ es, ¬ e.Refused) := by
  obtain ⟨events, hlog, hsilent⟩ := getPage_log (recording send now) now endpoint page s
  obtain ⟨es, hpast, hd⟩ := getPage_derivation send now endpoint page s
  rcases hfirst : s.getPage (recording send now) now endpoint page with ⟨result, m⟩
  simp only [hfirst] at hlog hsilent hpast hd
  by_cases hr : result = .error .unauthorized
  · subst hr
    obtain ⟨events', hlog', -⟩ := getPage_log (recording send now) now endpoint page
      (m.note (.tokenRejected page)).invalidate
    obtain ⟨es', hpast', hd'⟩ := getPage_derivation send now endpoint page
      (m.note (.tokenRejected page)).invalidate
    rcases hretry : (m.note (.tokenRejected page)).invalidate.getPage (recording send now) now
      endpoint page with ⟨second, n⟩
    simp only [hretry] at hlog' hpast' hd'
    have hblock : PageBlock page (es ++ es') second := hd.pageBlock_retry hd'
    have hrun : (s.requestPage (recording send now) now endpoint page).1 = second ∧
        (s.requestPage (recording send now) now endpoint page).2.link = n.link ∧
        (s.requestPage (recording send now) now endpoint page).2.log = n.log := by
      by_cases hq : second = .error .unauthorized
      · subst hq
        simp [requestPage_of_rejected hfirst hretry, invalidate, setToken]
      · simp [requestPage_of_renewed hfirst hretry hq]
    refine ⟨es ++ es', events ++ .tokenRejected page :: events', ?_, ?_, ?_, ?_⟩
    · rw [hrun.2.1, hpast', ← List.append_assoc, ← hpast]
      rfl
    · simp [hrun.2.2, hlog', hlog, invalidate, setToken, note]
    · rw [hrun.1]
      exact hblock
    · -- The rejection is a warning, and it comes from a page that was refused.
      refine iff_of_false (fun h => (h (.tokenRejected page) (by simp)).1 rfl) ?_
      rintro ⟨-, hunrefused⟩
      obtain ⟨first, hmem, -, hrefused⟩ := hd.exists_refused
      exact hunrefused first (List.mem_append_left _ hmem) hrefused
  · have hrun := requestPage_of_ne hfirst hr
    refine ⟨es, events, by rw [hrun, hpast], by rw [hrun, hlog], ?_, ?_⟩
    · rw [hrun]
      exact (RequestDerivation.once hd hr).pageBlock
    · rw [hsilent, hd.asked_once_iff, and_iff_left hr]

/-- A walk is silent exactly when it reads the listing to its end. -/
theorem walk_log (series endpoint : String) (room page : ℕ) (s : Session (Recorded σ)) :
    ∃ es events, (s.walk (recording send now) now series endpoint room page).2.link.past =
        s.link.past ++ es ∧
      (s.walk (recording send now) now series endpoint room page).2.log = s.log ++ events ∧
      (∀ n ∈ pagesAsked es, page ≤ n) ∧
      (Silent events ↔ ∃ more < room, ReadThrough page more es) := by
  induction room generalizing page s with
  | zero =>
      refine ⟨[], [.pageLimitReached series s.client.maxPages], ?_⟩
      simp [walk, note, pagesAsked, Event.level]
  | succ room ih =>
      obtain ⟨es, events, hpast, hlog, hblock, hsilent⟩ :=
        requestPage_log send now endpoint page s
      rcases hpage : s.requestPage (recording send now) now endpoint page with ⟨result, m⟩
      simp only [hpage] at hpast hlog hblock
      have hbound : ∀ n ∈ pagesAsked es, page ≤ n := fun n hn => (hblock.eq_of_mem hn).ge
      cases result with
      | error e =>
          have hunread : ¬ ∃ more < room + 1, ReadThrough page more es := by
            rintro ⟨more, -, hread⟩
            exact ReadThrough.not_of_error hblock hread
          rw [walk_of_error hpage]
          refine ⟨es, events ++ [pageEvent series page e], hpast, by simp [note, hlog], hbound,
            iff_of_false (fun h => ?_) hunread⟩
          obtain ⟨hbefore, hevent⟩ := silent_append.mp h
          by_cases hmissing : e = .noToken
          · -- The walk only adds a debug event; the warning is the one of getting the token.
            subst hmissing
            obtain ⟨hasked, hunrefused⟩ := hsilent.mp hbefore
            obtain ⟨refused, hmem, hrefused⟩ := hblock.refused_of_noToken (by simp [hasked])
            exact hunrefused refused hmem hrefused
          · have hfailed : pageEvent series page e = .pageFailed series page e := by
              cases e <;> first | rfl | exact (hmissing rfl).elim
            rw [hfailed] at hevent
            exact (silent_singleton.mp hevent).2 rfl
      | ok body =>
          by_cases hend : body.usableEntries = [] ∨ body.hasNext = false
          · rw [walk_of_last hpage hend]
            refine ⟨es, events, hpast, hlog, hbound, hsilent.trans ⟨fun hpages => ?_, ?_⟩⟩
            · exact ⟨0, Nat.succ_pos room, (ReadThrough.last_iff hblock hend).mpr ⟨rfl, hpages⟩⟩
            · rintro ⟨more, -, hread⟩
              exact ((ReadThrough.last_iff hblock hend).mp hread).2
          · rw [not_or, Bool.not_eq_false] at hend
            obtain ⟨es', events', hpast', hlog', hbound', hsilent'⟩ := ih (page + 1) m
            rw [walk_of_next hpage hend.1 hend.2]
            refine ⟨es ++ es', events ++ events', by rw [hpast', hpast, List.append_assoc],
              by rw [hlog', hlog, List.append_assoc], ?_, ?_⟩
            · rw [pagesAsked_append, List.forall_mem_append]
              exact ⟨hbound, fun n hn => Nat.le_of_succ_le (hbound' n hn)⟩
            · simp only [silent_append, hsilent, hsilent',
                ReadThrough.next_iff hblock hend.1 hend.2 hbound']
              constructor
              · rintro ⟨hpages, fewer, hfewer, hread⟩
                exact ⟨fewer + 1, Nat.succ_lt_succ hfewer, hpages, fewer, rfl, hread⟩
              · rintro ⟨_, hmore, hpages, fewer, rfl, hread⟩
                exact ⟨hpages, fewer, Nat.lt_of_succ_lt_succ hmore, hread⟩

/-- A fetch is silent exactly when it reads the listing to its end within its limit. -/
theorem fetch_log (series : String) (s : Session σ) :
    ∃ events, (s.fetch send now series).2.log = s.log ++ events ∧
      (Silent events ↔ ∃ more < s.client.maxPages.toNat,
        ReadThrough 0 more (s.fetchExchanges send now series)) := by
  cases hurl : s.client.listingUrl series with
  | error e =>
      obtain ⟨hnothing, -⟩ := fetchExchanges_of_unusable send now series s e hurl
      refine ⟨[.urlUnusable series e], by simp [fetch, hurl, note],
        iff_of_false (by simp [Event.level]) ?_⟩
      rintro ⟨more, -, hread⟩
      rw [hnothing] at hread
      exact ReadThrough.not_nil hread
  | ok endpoint =>
      obtain ⟨es, events, hpast, hlog, -, hsilent⟩ :=
        walk_log send now series endpoint s.client.maxPages.toNat 0 s.recorded
      rw [← (fetch_recorded send now series s).2.log, fetchExchanges]
      have hurl' : s.recorded.client.listingUrl series = .ok endpoint := hurl
      have hroom : s.recorded.client.maxPages = s.client.maxPages := rfl
      have hstart : s.recorded.log = s.log ∧ s.recorded.link.past = [] := ⟨rfl, rfl⟩
      rcases hwalk : s.recorded.walk (recording send now) now series endpoint
        s.client.maxPages.toNat 0 with ⟨found, m⟩
      simp only [hwalk, hstart, List.nil_append] at hpast hlog
      by_cases hfound : found = []
      · refine ⟨events, ?_, ?_⟩
        · simp [fetch, hurl', hroom, hwalk, hfound, hlog]
        · simpa [fetch, hurl', hroom, hwalk, hfound, hpast] using hsilent
      · refine ⟨events ++ [.fetched series found.length], ?_, ?_⟩
        · simp [fetch, hurl', hroom, hwalk, hfound, hlog, note]
        · simpa [fetch, hurl', hroom, hwalk, hfound, hpast, note, Event.level] using hsilent

end Session

end EpisodeGuide
