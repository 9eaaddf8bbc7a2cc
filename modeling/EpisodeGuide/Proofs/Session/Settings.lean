import EpisodeGuide.Proofs.Session.Cutoff
import EpisodeGuide.Proofs.Session.Interruption
import EpisodeGuide.Proofs.Text.Blank

/-! # Settings of a client

A fetch may change the token of a client, but neither its key nor the address of its logins, and
every login posts that key. A client that has no key and holds no token sends nothing. -/

namespace EpisodeGuide

open Http Provider

/-- An exchange that posts the key of an authenticator, or is no login. -/
def Exchange.ByKeyOf (a : Authenticator) (e : Exchange) : Prop :=
  e.request.method = .post → ∃ key, a.apiKey = some key ∧ e.request = a.loginRequest key

/-- No key to log in with, and no token from before. -/
structure Authenticator.Keyless (a : Authenticator) : Prop where
  apiKey : a.apiKey = none
  token : a.token = none

theorem Authenticator.new_keyless {apiKey : Option String}
    (h : ∀ key ∈ apiKey, Text.isBlank key = true) (baseUrl : String) :
    (Authenticator.new apiKey baseUrl).Keyless :=
  ⟨Text.nonBlank?_eq_none_iff.mpr h, rfl⟩

section Derivation

variable {now : Int} {series endpoint : String} {page room : ℕ} {a a' : Authenticator}
  {es : List Exchange} {token : Option Token} {result : Except PageError Page}
  {found : List Episode}

/-! ### Logins -/

/-- Forgetting the token changes neither the key nor the address. -/
theorem Exchange.ByKeyOf.of_invalidate_eq {e : Exchange} (h : e.ByKeyOf a')
    (heq : a'.invalidate = a.invalidate) : e.ByKeyOf a := by
  have hkey : a'.invalidate.apiKey = a.invalidate.apiKey := by rw [heq]
  have hurl : a'.invalidate.loginUrl = a.invalidate.loginUrl := by rw [heq]
  intro hpost
  obtain ⟨key, hsome, hrequest⟩ := h hpost
  refine ⟨key, hkey.symm.trans hsome, ?_⟩
  rw [hrequest]
  exact congrArg (Request.postJson · (.object [("apikey", .text key)])) hurl

theorem TokenDerivation.byKey (h : TokenDerivation now a es token a') :
    ∀ e ∈ es, e.ByKeyOf a := by
  cases h with
  | held | keyless => simp
  | refused _ hkey | issued _ hkey => exact List.forall_mem_singleton.mpr fun _ => ⟨_, hkey, rfl⟩

theorem PageDerivation.byKey (h : PageDerivation now endpoint page a es result a') :
    ∀ e ∈ es, e.ByKeyOf a := by
  cases h with
  | noToken ht => exact ht.byKey
  | asked outcome ht =>
      refine List.forall_mem_append.mpr ⟨ht.byKey, List.forall_mem_singleton.mpr ?_⟩
      intro hpost
      cases hpost

theorem RequestDerivation.byKey (h : RequestDerivation now endpoint page a es result a') :
    ∀ e ∈ es, e.ByKeyOf a := by
  cases h with
  | once hp => exact hp.byKey
  | renewed hp hp' | rejected hp hp' =>
      refine List.forall_mem_append.mpr ⟨hp.byKey, fun e he => ?_⟩
      exact (hp'.byKey e he).of_invalidate_eq hp.invalidate_eq

theorem WalkDerivation.byKey (h : WalkDerivation now series endpoint room page a es found a') :
    ∀ e ∈ es, e.ByKeyOf a := by
  induction h with
  | limit => simp
  | stopped hp | last hp => exact hp.byKey
  | next hp _ _ _ ih =>
      refine List.forall_mem_append.mpr ⟨hp.byKey, fun e he => ?_⟩
      exact (ih e he).of_invalidate_eq hp.invalidate_eq

theorem WalkDerivation.invalidate_eq
    (h : WalkDerivation now series endpoint room page a es found a') :
    a'.invalidate = a.invalidate := by
  induction h with
  | limit => rfl
  | stopped hp | last hp => exact hp.invalidate_eq
  | next hp _ _ _ ih => exact ih.trans hp.invalidate_eq

/-! ### Nothing to log in with -/

theorem TokenDerivation.of_keyless (h : TokenDerivation now a es token a') (ha : a.Keyless) :
    es = [] ∧ token = none ∧ a' = a := by
  cases h with
  | held h => simp [Authenticator.currentToken, ha.token] at h
  | keyless => exact ⟨rfl, rfl, rfl⟩
  | refused _ hkey | issued _ hkey => simp [ha.apiKey] at hkey

theorem PageDerivation.of_keyless (h : PageDerivation now endpoint page a es result a')
    (ha : a.Keyless) : es = [] ∧ result = .error .noToken ∧ a' = a := by
  cases h with
  | noToken ht =>
      obtain ⟨hes, -, hauth⟩ := ht.of_keyless ha
      exact ⟨hes, rfl, hauth⟩
  | asked outcome ht =>
      obtain ⟨-, htoken, -⟩ := ht.of_keyless ha
      cases htoken

theorem RequestDerivation.of_keyless (h : RequestDerivation now endpoint page a es result a')
    (ha : a.Keyless) : es = [] ∧ result = .error .noToken ∧ a' = a := by
  cases h with
  | once hp => exact hp.of_keyless ha
  | renewed hp | rejected hp =>
      obtain ⟨-, hresult, -⟩ := hp.of_keyless ha
      cases hresult

theorem WalkDerivation.of_keyless (h : WalkDerivation now series endpoint room page a es found a')
    (ha : a.Keyless) : es = [] ∧ found = [] ∧ a' = a := by
  cases h with
  | limit => exact ⟨rfl, rfl, rfl⟩
  | stopped hp =>
      obtain ⟨hes, -, hauth⟩ := hp.of_keyless ha
      exact ⟨hes, rfl, hauth⟩
  | last hp | next hp =>
      obtain ⟨-, hresult, -⟩ := hp.of_keyless ha
      cases hresult

end Derivation

/-! ### Fetching a listing -/

namespace Session

variable {σ : Type} (send : Transport σ) (now : Int) (series : String) (s : Session σ)

theorem fetch_byKey : ∀ e ∈ s.fetchExchanges send now series, e.ByKeyOf s.client.auth := by
  cases hurl : s.client.listingUrl series with
  | error e =>
      rw [(fetchExchanges_of_unusable send now series s e hurl).1]
      simp
  | ok endpoint => exact (fetchExchanges_derivation send now series endpoint s hurl).byKey

theorem fetch_invalidate_eq :
    (s.fetch send now series).2.client.auth.invalidate = s.client.auth.invalidate := by
  cases hurl : s.client.listingUrl series with
  | error e => rw [(fetchExchanges_of_unusable send now series s e hurl).2]
  | ok endpoint => exact (fetchExchanges_derivation send now series endpoint s hurl).invalidate_eq

/-- Without a key and without a token a fetch does nothing. -/
theorem fetch_of_keyless (h : s.client.auth.Keyless) :
    s.fetchExchanges send now series = [] ∧ (s.fetch send now series).1 = [] ∧
      (s.fetch send now series).2.client.auth = s.client.auth ∧
      (s.fetch send now series).2.link = s.link := by
  have hconversation := fetch_conversation send now series s
  cases hurl : s.client.listingUrl series with
  | error e =>
      rw [(fetchExchanges_of_unusable send now series s e hurl).1, fetch_of_unusable send hurl]
      exact ⟨rfl, rfl, rfl, rfl⟩
  | ok endpoint =>
      obtain ⟨hes, hfound, hauth⟩ :=
        (fetchExchanges_derivation send now series endpoint s hurl).of_keyless h
      rw [hes] at hconversation
      exact ⟨hes, hfound, hauth, conversation_nil_iff.mp hconversation⟩

end Session

end EpisodeGuide
