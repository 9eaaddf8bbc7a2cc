import EpisodeGuide.Proofs.Exchange.Recording

/-! # Derivations of a walk

Rules for what a client sends and what it gets out of it, exchange by exchange. The rules read
the authenticator and the replies only, and every recorded run follows them. -/

namespace EpisodeGuide

open Http Provider

def pageOf : Except TransportError Reply → Except PageError Page
  | .ok reply => readPage reply
  | .error e => .error (.transport e)

/-- A token is the valid one that is held, or it comes from a login, which needs a key. -/
inductive TokenDerivation (now : Int) (auth : Authenticator) :
    List Exchange → Option Token → Authenticator → Prop where
  | held {t} (h : auth.currentToken now = some t) : TokenDerivation now auth [] (some t) auth
  | keyless (h : auth.currentToken now = none) (hk : auth.apiKey = none) :
      TokenDerivation now auth [] none auth
  | refused {key outcome} (h : auth.currentToken now = none) (hk : auth.apiKey = some key)
      (ho : ¬ (⟨now, auth.loginRequest key, outcome⟩ : Exchange).Accepted) :
      TokenDerivation now auth [⟨now, auth.loginRequest key, outcome⟩] none auth
  | issued {key outcome t} (h : auth.currentToken now = none) (hk : auth.apiKey = some key)
      (ho : (⟨now, auth.loginRequest key, outcome⟩ : Exchange).Issues t) :
      TokenDerivation now auth [⟨now, auth.loginRequest key, outcome⟩] (some t)
        { auth with token := some t }

/-- A page is asked for with a token, or not at all. -/
inductive PageDerivation (now : Int) (endpoint : String) (page : ℕ) (auth : Authenticator) :
    List Exchange → Except PageError Page → Authenticator → Prop where
  | noToken {es auth'} : TokenDerivation now auth es none auth' →
      PageDerivation now endpoint page auth es (.error .noToken) auth'
  | asked {es t auth'} (outcome) : TokenDerivation now auth es (some t) auth' →
      PageDerivation now endpoint page auth (es ++ [⟨now, pageRequest endpoint t page, outcome⟩])
        (pageOf outcome) auth'

/-- A page is asked for a second time when the token was rejected, which is forgotten before and
forgotten again when the second one is rejected as well. -/
inductive RequestDerivation (now : Int) (endpoint : String) (page : ℕ) (auth : Authenticator) :
    List Exchange → Except PageError Page → Authenticator → Prop where
  | once {es result auth'} : PageDerivation now endpoint page auth es result auth' →
      result ≠ .error .unauthorized → RequestDerivation now endpoint page auth es result auth'
  | renewed {es es' result auth' auth''} :
      PageDerivation now endpoint page auth es (.error .unauthorized) auth' →
      PageDerivation now endpoint page auth'.invalidate es' result auth'' →
      result ≠ .error .unauthorized →
      RequestDerivation now endpoint page auth (es ++ es') result auth''
  | rejected {es es' auth' auth''} :
      PageDerivation now endpoint page auth es (.error .unauthorized) auth' →
      PageDerivation now endpoint page auth'.invalidate es' (.error .unauthorized) auth'' →
      RequestDerivation now endpoint page auth (es ++ es') (.error .unauthorized) auth''.invalidate

/-- A walk goes on behind a page that has episodes and a next one, while there is room. -/
inductive WalkDerivation (now : Int) (series endpoint : String) :
    ℕ → ℕ → Authenticator → List Exchange → List Episode → Authenticator → Prop where
  | limit (page auth) : WalkDerivation now series endpoint 0 page auth [] [] auth
  | stopped {room page auth es e auth'} :
      RequestDerivation now endpoint page auth es (.error e) auth' →
      WalkDerivation now series endpoint (room + 1) page auth es [] auth'
  | last {room page auth es body auth'} :
      RequestDerivation now endpoint page auth es (.ok body) auth' →
      (body.usableEntries = [] ∨ body.hasNext = false) →
      WalkDerivation now series endpoint (room + 1) page auth es (body.episodes series) auth'
  | next {room page auth es es' body rest auth' auth''} :
      RequestDerivation now endpoint page auth es (.ok body) auth' →
      body.usableEntries ≠ [] → body.hasNext = true →
      WalkDerivation now series endpoint room (page + 1) auth' es' rest auth'' →
      WalkDerivation now series endpoint (room + 1) page auth (es ++ es')
        (body.episodes series ++ rest) auth''

/-! ### Recorded runs follow the rules -/

theorem Exchange.issues_iff_conclude {x : Exchange} {t : Token} (h : x.request.method = .post) :
    x.Issues t ↔ Authenticator.conclude x.time x.outcome = .ok t := by
  obtain ⟨time, request, fault | reply⟩ := x
  · simp [Issues, Authenticator.conclude]
  · have hmethod : request.method = .post := h
    simp [Issues, Authenticator.conclude, hmethod, Authenticator.accept_eq_ok_iff]

namespace Session

variable {σ : Type} (send : Transport σ) (now : Int)

theorem getToken_derivation (s : Session (Recorded σ)) :
    ∃ es, (s.getToken (recording send now) now).2.link.past = s.link.past ++ es ∧
      TokenDerivation now s.client.auth es (s.getToken (recording send now) now).1
        (s.getToken (recording send now) now).2.client.auth := by
  cases hheld : s.client.auth.currentToken now with
  | some t =>
      rw [getToken_of_held hheld]
      exact ⟨[], (List.append_nil _).symm, .held hheld⟩
  | none =>
      cases hkey : s.client.auth.apiKey with
      | none =>
          rw [getToken_of_no_key hheld hkey]
          exact ⟨[], (List.append_nil _).symm, .keyless hheld hkey⟩
      | some key =>
          let request := s.client.auth.loginRequest key
          let outcome := (recording send now request s.link).1
          refine ⟨[⟨now, request, outcome⟩], ?_⟩
          cases hout : Authenticator.conclude now outcome with
          | error e =>
              have ho : ¬ (⟨now, request, outcome⟩ : Exchange).Accepted := by
                rintro ⟨t, ht⟩
                rw [Exchange.issues_iff_conclude rfl, hout] at ht
                cases ht
              rw [getToken_of_failed hheld hkey hout]
              exact ⟨rfl, .refused hheld hkey ho⟩
          | ok t =>
              have ho : (⟨now, request, outcome⟩ : Exchange).Issues t :=
                (Exchange.issues_iff_conclude rfl).mpr hout
              rw [getToken_of_accepted hheld hkey hout]
              exact ⟨rfl, .issued hheld hkey ho⟩

theorem getPage_derivation (endpoint : String) (page : ℕ) (s : Session (Recorded σ)) :
    ∃ es, (s.getPage (recording send now) now endpoint page).2.link.past = s.link.past ++ es ∧
      PageDerivation now endpoint page s.client.auth es
        (s.getPage (recording send now) now endpoint page).1
        (s.getPage (recording send now) now endpoint page).2.client.auth := by
  obtain ⟨es, hpast, hd⟩ := getToken_derivation send now s
  rcases htoken : s.getToken (recording send now) now with ⟨token, m⟩
  simp only [htoken] at hpast hd
  cases token with
  | none => exact ⟨es, by simpa [getPage, htoken] using ⟨hpast, .noToken hd⟩⟩
  | some t =>
      rcases hsend : send (pageRequest endpoint t page) m.link.link with ⟨outcome, link⟩
      refine ⟨es ++ [⟨now, pageRequest endpoint t page, outcome⟩], ?_⟩
      have ha : PageDerivation now endpoint page s.client.auth
          (es ++ [⟨now, pageRequest endpoint t page, outcome⟩]) (pageOf outcome) m.client.auth :=
        .asked outcome hd
      cases outcome <;>
        simpa [getPage, htoken, recording, hsend, hpast, pageOf] using ha

theorem requestPage_derivation (endpoint : String) (page : ℕ) (s : Session (Recorded σ)) :
    ∃ es, (s.requestPage (recording send now) now endpoint page).2.link.past =
        s.link.past ++ es ∧
      RequestDerivation now endpoint page s.client.auth es
        (s.requestPage (recording send now) now endpoint page).1
        (s.requestPage (recording send now) now endpoint page).2.client.auth := by
  obtain ⟨es, hpast, hd⟩ := getPage_derivation send now endpoint page s
  rcases hfirst : s.getPage (recording send now) now endpoint page with ⟨first, m⟩
  simp only [hfirst] at hpast hd
  by_cases hr : first = .error .unauthorized
  · subst hr
    obtain ⟨es', hpast', hd'⟩ := getPage_derivation send now endpoint page
      (m.note (.tokenRejected page)).invalidate
    rcases hretry : (m.note (.tokenRejected page)).invalidate.getPage (recording send now) now
      endpoint page with ⟨second, n⟩
    simp only [hretry] at hpast' hd'
    have hall : n.link.past = s.link.past ++ (es ++ es') := by
      rw [hpast', ← List.append_assoc, ← hpast]
      rfl
    refine ⟨es ++ es', ?_⟩
    by_cases hq : second = .error .unauthorized
    · subst hq
      rw [requestPage_of_rejected hfirst hretry]
      exact ⟨hall, .rejected hd hd'⟩
    · rw [requestPage_of_renewed hfirst hretry hq]
      exact ⟨hall, .renewed hd hd' hq⟩
  · rw [requestPage_of_ne hfirst hr]
    exact ⟨es, hpast, .once hd hr⟩

theorem walk_derivation (series endpoint : String) (room page : ℕ) (s : Session (Recorded σ)) :
    ∃ es, (s.walk (recording send now) now series endpoint room page).2.link.past =
        s.link.past ++ es ∧
      WalkDerivation now series endpoint room page s.client.auth es
        (s.walk (recording send now) now series endpoint room page).1
        (s.walk (recording send now) now series endpoint room page).2.client.auth := by
  induction room generalizing page s with
  | zero => exact ⟨[], by simpa [walk, note] using .limit page s.client.auth⟩
  | succ room ih =>
      obtain ⟨es, hpast, hd⟩ := requestPage_derivation send now endpoint page s
      rcases hpage : s.requestPage (recording send now) now endpoint page with ⟨result, m⟩
      simp only [hpage] at hpast hd
      cases result with
      | error e =>
          rw [walk_of_error hpage]
          exact ⟨es, hpast, .stopped hd⟩
      | ok body =>
          by_cases hend : body.usableEntries = [] ∨ body.hasNext = false
          · rw [walk_of_last hpage hend]
            exact ⟨es, hpast, .last hd hend⟩
          · rw [not_or, Bool.not_eq_false] at hend
            obtain ⟨es', hpast', hd'⟩ := ih (page + 1) m
            rw [walk_of_next hpage hend.1 hend.2]
            exact ⟨es ++ es', by rw [hpast', hpast, List.append_assoc],
              .next hd hend.1 hend.2 hd'⟩

/-- Getting a token follows the rules. -/
theorem tokenExchanges_derivation (s : Session σ) :
    TokenDerivation now s.client.auth (s.tokenExchanges send now) (s.getToken send now).1
      (s.getToken send now).2.client.auth := by
  obtain ⟨es, hpast, hd⟩ := getToken_derivation send now s.recorded
  obtain ⟨htoken, hmirrors⟩ := getToken_recorded send now s
  have hes : s.tokenExchanges send now = es := by
    rw [tokenExchanges, hpast, recorded, List.nil_append]
  rw [hes, ← htoken, ← hmirrors.client]
  exact hd

/-- A fetch whose listing has an address is a walk from the first page. -/
theorem fetchExchanges_derivation (series endpoint : String) (s : Session σ)
    (h : s.client.listingUrl series = .ok endpoint) :
    WalkDerivation now series endpoint s.client.maxPages.toNat 0 s.client.auth
      (s.fetchExchanges send now series) (s.fetch send now series).1
      (s.fetch send now series).2.client.auth := by
  obtain ⟨es, hpast, hd⟩ := walk_derivation send now series endpoint s.client.maxPages.toNat 0
    s.recorded
  obtain ⟨hfound, hmirrors⟩ := fetch_recorded send now series s
  rcases hwalk : s.recorded.walk (recording send now) now series endpoint
    s.client.maxPages.toNat 0 with ⟨found, m⟩
  simp only [hwalk] at hpast hd
  have hrun : s.recorded.fetch (recording send now) now series =
      if found.isEmpty then ([], m) else (found, m.note (.fetched series found.length)) := by
    have hurl : s.recorded.client.listingUrl series = .ok endpoint := h
    have hroom : s.recorded.client.maxPages = s.client.maxPages := rfl
    simp only [fetch, hurl, hroom, hwalk]
  have hm : m.link.past = es := by simpa [recorded] using hpast
  rw [← hfound, ← hmirrors.client, fetchExchanges, hrun]
  split
  · next hempty =>
    rw [List.isEmpty_iff.mp hempty, ← hm] at hd
    exact hd
  · rw [← hm] at hd
    exact hd

/-- A fetch whose listing has no address sends nothing. -/
theorem fetchExchanges_of_unusable (series : String) (s : Session σ) (e : PageError)
    (h : s.client.listingUrl series = .error e) :
    s.fetchExchanges send now series = [] ∧ (s.fetch send now series).2.client = s.client := by
  have hr : s.recorded.client.listingUrl series = .error e := h
  simp only [fetchExchanges, fetch, hr, h]
  exact ⟨rfl, rfl⟩

end Session

end EpisodeGuide
