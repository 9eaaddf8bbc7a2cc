import EpisodeGuide.Proofs.Session.Derivation

/-! # Order of requests in a walk

Every page is asked for with the valid token that is held, and a login is sent only when none
is. The token at the end is the one that the exchanges leave. -/

namespace EpisodeGuide

open Http Provider

theorem Authenticator.currentToken_eq_some_iff (now : Int) (auth : Authenticator) (t : Token) :
    auth.currentToken now = some t ↔ auth.token = some t ∧ now < t.expiresAt := by
  simp [Authenticator.currentToken, Token.isValid, Option.filter_eq_some_iff]

theorem Authenticator.currentToken_eq_none_iff (now : Int) (auth : Authenticator) :
    auth.currentToken now = none ↔ ∀ t, auth.token = some t → t.expiresAt ≤ now := by
  simp [Authenticator.currentToken, Token.isValid, Option.filter_eq_none_iff]

theorem Exchange.Issues.expiresAt_gt {e : Exchange} {t : Token} (h : e.Issues t) :
    e.time < t.expiresAt := by
  rw [h.expiresAt_eq]
  omega

variable {now : Int} {series endpoint : String} {page room : ℕ} {auth auth' : Authenticator}
  {es : List Exchange}

/-! ### Getting a token -/

namespace TokenDerivation

variable {token : Option Token}

theorem login_only (h : TokenDerivation now auth es token auth') :
    ∀ e ∈ es, e.request.method = .post := by
  cases h <;> simp [Authenticator.loginRequest, Request.postJson]

theorem time_eq (h : TokenDerivation now auth es token auth') : ∀ e ∈ es, e.time = now := by
  cases h <;> simp

theorem apiKey_eq (h : TokenDerivation now auth es token auth') : auth'.apiKey = auth.apiKey := by
  cases h <;> rfl

/-- A token is missing when there is no key, or when the login with it has failed. -/
theorem of_none (h : TokenDerivation now auth es none auth') :
    auth.currentToken now = none ∧
      ((es = [] ∧ auth.apiKey = none) ∨
        ∃ e, es = [e] ∧ e.time = now ∧ e.request.method = .post ∧ ¬ e.Accepted) := by
  cases h with
  | keyless h hk => exact ⟨h, .inl ⟨rfl, hk⟩⟩
  | refused h hk ho => exact ⟨h, .inr ⟨_, rfl, rfl, rfl, ho⟩⟩

/-- A token is the valid one that is held, or a login has just issued it. -/
theorem of_some {t : Token} (h : TokenDerivation now auth es (some t) auth') :
    (es = [] ∧ auth.currentToken now = some t) ∨
      (auth.currentToken now = none ∧
        ∃ e, es = [e] ∧ e.request.method = .post ∧ e.Issues t) := by
  cases h with
  | held h => exact .inl ⟨rfl, h⟩
  | issued h hk ho => exact .inr ⟨h, _, rfl, rfl, ho⟩

theorem of_held {t : Token} (h : TokenDerivation now auth es token auth')
    (ht : auth.currentToken now = some t) : es = [] ∧ token = some t ∧ auth' = auth := by
  cases h with
  | held h => exact ⟨rfl, h.symm.trans ht, rfl⟩
  | keyless h | refused h | issued h => simp [h] at ht

theorem length_le_one (h : TokenDerivation now auth es token auth') : es.length ≤ 1 := by
  cases h <;> simp

theorem orderly (h : TokenDerivation now auth es token auth') : Orderly auth.token es := by
  cases h with
  | held | keyless => trivial
  | refused h | issued h =>
      exact ⟨(Authenticator.currentToken_eq_none_iff now auth).mp h, trivial⟩

theorem token_eq (h : TokenDerivation now auth es token auth') :
    auth'.token = heldAfter auth.token es := by
  cases h with
  | held | keyless => rfl
  | refused h hk ho =>
      rw [heldAfter_cons, heldAfter_nil, Exchange.keep_of_quiet ho]
      rintro ⟨hget, -⟩
      cases hget
  | issued h hk ho => rw [heldAfter_cons, heldAfter_nil, Exchange.keep_of_issues ho]

/-- What is handed out is the token that is held afterwards, if it is valid. -/
theorem result_eq (h : TokenDerivation now auth es token auth') :
    token = auth'.currentToken now := by
  cases h with
  | held h => exact h.symm
  | keyless h | refused h => exact h.symm
  | issued h hk ho =>
      exact ((Authenticator.currentToken_eq_some_iff now _ _).mpr ⟨rfl, ho.expiresAt_gt⟩).symm

theorem valid {t : Token} (h : TokenDerivation now auth es (some t) auth') :
    auth'.token = some t ∧ now < t.expiresAt :=
  (Authenticator.currentToken_eq_some_iff now auth' t).mp h.result_eq.symm

end TokenDerivation

/-! ### Asking for a page -/

namespace PageDerivation

variable {result : Except PageError Page}

/-- A page is refused when it is asked for with a token and answered 401. -/
theorem pageOf_unauthorized {outcome : Except TransportError Reply}
    (h : pageOf outcome = .error .unauthorized) :
    ∃ reply, outcome = .ok reply ∧ reply.status = 401 := by
  cases outcome with
  | error e => cases h
  | ok reply =>
      refine ⟨reply, rfl, ?_⟩
      simp only [pageOf, readPage] at h
      split at h
      · split at h <;> cases h
      · assumption
      · cases h

theorem orderly (h : PageDerivation now endpoint page auth es result auth') :
    Orderly auth.token es := by
  cases h with
  | noToken ht => exact ht.orderly
  | asked outcome ht =>
      obtain ⟨hheld, hvalid⟩ := ht.valid
      rw [orderly_append, ← ht.token_eq]
      exact ⟨ht.orderly, ⟨_, hheld, hvalid, rfl⟩, trivial⟩

/-- A page that was refused leaves no token, whatever is still stored. -/
theorem heldAfter_of_unauthorized
    (h : PageDerivation now endpoint page auth es (.error .unauthorized) auth') :
    heldAfter auth.token es = none := by
  generalize hresult : (Except.error PageError.unauthorized : Except PageError Page) = result at h
  cases h with
  | noToken ht => cases hresult
  | asked outcome ht =>
      obtain ⟨reply, rfl, hstatus⟩ := pageOf_unauthorized hresult.symm
      rw [heldAfter_append, heldAfter_cons, heldAfter_nil]
      exact Exchange.keep_of_refused ⟨rfl, reply, rfl, hstatus⟩ _

theorem token_eq (h : PageDerivation now endpoint page auth es result auth')
    (hr : result ≠ .error .unauthorized) : auth'.token = heldAfter auth.token es := by
  cases h with
  | noToken ht => exact ht.token_eq
  | @asked es t _ outcome ht =>
      have ha : ¬ (⟨now, pageRequest endpoint t page, outcome⟩ : Exchange).Accepted := by
        rintro ⟨_, hpost, -⟩
        cases hpost
      have hf : ¬ (⟨now, pageRequest endpoint t page, outcome⟩ : Exchange).Refused := by
        rintro ⟨-, reply, houtcome, hstatus⟩
        obtain rfl : outcome = .ok reply := houtcome
        exact hr (by simp [pageOf, readPage, hstatus])
      rw [heldAfter_append, heldAfter_cons, heldAfter_nil, Exchange.keep_of_quiet ha hf,
        ht.token_eq]

end PageDerivation

namespace RequestDerivation

variable {result : Except PageError Page}

theorem orderly (h : RequestDerivation now endpoint page auth es result auth') :
    Orderly auth.token es := by
  cases h with
  | once hp => exact hp.orderly
  | renewed hp hp' | rejected hp hp' =>
      rw [orderly_append, hp.heldAfter_of_unauthorized]
      exact ⟨hp.orderly, hp'.orderly⟩

/-- Whichever way a request ends, the token that is stored is the one that the exchanges leave. -/
theorem token_eq (h : RequestDerivation now endpoint page auth es result auth') :
    auth'.token = heldAfter auth.token es := by
  cases h with
  | once hp hr => exact hp.token_eq hr
  | renewed hp hp' hr =>
      rw [heldAfter_append, hp.heldAfter_of_unauthorized]
      exact hp'.token_eq hr
  | rejected hp hp' =>
      rw [heldAfter_append, hp.heldAfter_of_unauthorized]
      exact hp'.heldAfter_of_unauthorized.symm

end RequestDerivation

/-! ### Walking the pages -/

namespace WalkDerivation

variable {episodes : List Episode}

theorem orderly (h : WalkDerivation now series endpoint room page auth es episodes auth') :
    Orderly auth.token es := by
  induction h with
  | limit => trivial
  | stopped hp | last hp => exact hp.orderly
  | next hp _ _ _ ih =>
      rw [orderly_append, ← hp.token_eq]
      exact ⟨hp.orderly, ih⟩

theorem token_eq (h : WalkDerivation now series endpoint room page auth es episodes auth') :
    auth'.token = heldAfter auth.token es := by
  induction h with
  | limit => rfl
  | stopped hp | last hp => exact hp.token_eq
  | next hp _ _ _ ih => rw [heldAfter_append, ← hp.token_eq, ih]

end WalkDerivation

/-! ### Fetching a listing -/

namespace Session

variable {σ : Type} (send : Transport σ)

def start (apiKey : Option String) (baseUrl : String) (maxPages : UInt32) (link : σ) : Session σ :=
  ⟨(Client.new apiKey baseUrl).withMaxPages maxPages, link, []⟩

theorem fetchExchanges_orderly (now : Int) (series : String) (s : Session σ) :
    Orderly s.client.auth.token (s.fetchExchanges send now series) := by
  cases h : s.client.listingUrl series with
  | error e =>
      rw [(fetchExchanges_of_unusable send now series s e h).1]
      trivial
  | ok endpoint => exact (fetchExchanges_derivation send now series endpoint s h).orderly

theorem fetch_token (now : Int) (series : String) (s : Session σ) :
    (s.fetch send now series).2.client.auth.token =
      heldAfter s.client.auth.token (s.fetchExchanges send now series) := by
  cases h : s.client.listingUrl series with
  | error e =>
      obtain ⟨hnone, hclient⟩ := fetchExchanges_of_unusable send now series s e h
      rw [hnone, hclient, heldAfter_nil]
  | ok endpoint => exact (fetchExchanges_derivation send now series endpoint s h).token_eq

end Session

end EpisodeGuide
