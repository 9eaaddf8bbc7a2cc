import EpisodeGuide.Proofs.Exchange.Ledger
import EpisodeGuide.Proofs.Session.Execution

/-! # Keys and tokens stay where they belong

Two runs with different keys, or with different tokens from the provider, cannot be told apart by
their answers, their events, their caches or the addresses of their requests. The key shows in the
bodies of logins only, and a token as the bearer of requests for pages. -/

namespace EpisodeGuide

open Http

namespace Catalog

/-! ### Another key -/

/-- The same requests, apart from logins with one key here and another one there. -/
def SentButKey (auth : Authenticator) (k₁ k₂ : String) (r₁ r₂ : Request) : Prop :=
  r₁ = r₂ ∨ r₁ = auth.loginRequest k₁ ∧ r₂ = auth.loginRequest k₂

/-- The same client at work, apart from its key. -/
structure SameButKey (k₁ k₂ : String) (c₁ : Client) (l₁ : Script) (c₂ : Client) (l₂ : Script) :
    Prop where
  key : c₁.auth.apiKey = some k₁
  client : c₂ = { c₁ with auth := { c₁.auth with apiKey := some k₂ } }
  answers : l₂.answers = l₁.answers
  sent : List.Forall₂ (SentButKey c₁.auth k₁ k₂) l₁.sent l₂.sent

/-- Answers do not depend on what else is in a request than its URL. -/
theorem outcome_send {r₁ r₂ : Request} {l₁ l₂ : Script} (hurl : r₁.url = r₂.url)
    (hanswers : l₂.answers = l₁.answers) : (Script.send r₁ l₁).1 = (Script.send r₂ l₂).1 := by
  rw [Script.send_eq, Script.send_eq, hurl, hanswers]

theorem SameButKey.send {k₁ k₂ : String} {c₁ c₂ : Client} {l₁ l₂ : Script} {r₁ r₂ : Request}
    (h : SameButKey k₁ k₂ c₁ l₁ c₂ l₂) (hr : SentButKey c₁.auth k₁ k₂ r₁ r₂) :
    SameButKey k₁ k₂ c₁ (Script.send r₁ l₁).2 c₂ (Script.send r₂ l₂).2 := by
  rw [Script.send_eq, Script.send_eq]
  exact ⟨h.key, h.client, congrArg List.tail h.answers, List.rel_append h.sent (.cons hr .nil)⟩

theorem SameButKey.withToken {k₁ k₂ : String} {c₁ c₂ : Client} {l₁ l₂ : Script}
    (h : SameButKey k₁ k₂ c₁ l₁ c₂ l₂) (token : Option Token) :
    SameButKey k₁ k₂ (c₁.withToken token) l₁ (c₂.withToken token) l₂ :=
  ⟨h.key, congrArg (Client.withToken token) h.client, h.answers, h.sent⟩

/-- Nothing but the bodies of logins depends on the key. -/
theorem lockstep_key (k₁ k₂ : String) :
    Lockstep (Script.channel id) (Script.channel id) (fun _ => True) (fun _ => True)
      (SameButKey k₁ k₂) where
  sound := fun _ _ _ => trivial
  baseUrl := fun h => by rw [h.client]
  maxPages := fun h => by rw [h.client]
  listing := fun _ _ => trivial
  valid := fun now h => by rw [h.client]; rfl
  forget := fun h => h.withToken none
  login := by
    intro c₁ l₁ c₂ l₂ now h _
    have hkey : c₂.auth.apiKey = some k₂ := by rw [h.client]
    have hlogin : c₂.auth.loginRequest k₂ = c₁.auth.loginRequest k₂ := by rw [h.client]; rfl
    have hurl : (c₁.auth.loginRequest k₁).url = (c₂.auth.loginRequest k₂).url := by
      rw [hlogin]
      rfl
    have hout := outcome_send hurl h.answers
    have hsent := h.send (.inr ⟨rfl, hlogin⟩)
    rw [Authenticator.login_of_key h.key, Authenticator.login_of_key hkey]
    change LoginsAlike _ c₁ c₂
      (Authenticator.conclude now (Script.send _ l₁).1, (Script.send _ l₁).2)
      (Authenticator.conclude now (Script.send _ l₂).1, (Script.send _ l₂).2)
    rw [hout]
    exact .of_same hsent fun t _ => hsent.withToken (some t)
  page := by
    intro c₁ l₁ c₂ l₂ endpoint t₁ t₂ page h _ h₁ h₂ _
    have htoken : c₂.auth.token = c₁.auth.token := by rw [h.client]
    obtain rfl : t₁ = t₂ := by
      rw [htoken, h₁] at h₂
      exact Option.some.inj h₂
    exact ⟨outcome_send rfl h.answers, h.send (.inl rfl)⟩
  soundDelivery := fun _ _ _ => trivial
  delivery := fun items h _ =>
    ⟨h.key, h.client, by simp [Script.channel, Script.enqueue, h.answers], h.sent⟩

/-! ### Other tokens -/

/-- An entry of a ledger of answers for two runs. -/
abbrev PairUse :=
  Request × Option (Answer × Answer)

/-- Both runs get the same, or both get a reply that accepts the login that was sent. -/
def PairUse.Fair (u : PairUse) : Prop :=
  ∀ p ∈ u.2, p.1 = p.2 ∨ u.1.method = .post ∧ ∃ r₁ r₂ v₁ v₂,
    p = (.reply r₁, .reply r₂) ∧ r₁.Issues v₁ ∧ r₂.Issues v₂

/-- An accepted login issued the one token text here and the other one there. -/
def Issued (used : List PairUse) (v₁ v₂ : String) : Prop :=
  ∃ u ∈ used, u.1.method = .post ∧ ∃ r₁ r₂, u.2 = some (.reply r₁, .reply r₂) ∧
    r₁.Issues v₁ ∧ r₂.Issues v₂

/-- Tokens that were issued by one login. -/
def TokensIssued (used : List PairUse) : Option Token → Option Token → Prop :=
  Option.Rel fun t₁ t₂ => Issued used t₁.value t₂.value ∧ t₁.expiresAt = t₂.expiresAt

theorem TokensIssued.valid {used : List PairUse} {t₁ t₂ : Option Token}
    (h : TokensIssued used t₁ t₂) (now : Int) :
    (t₁.filter (·.isValid now)).isSome = (t₂.filter (·.isValid now)).isSome := by
  cases h with
  | none => rfl
  | some ht => simp [Token.isValid, ht.2]

/-- The same requests, apart from the bearers of requests for pages. -/
def SentButToken (used : List PairUse) (r₁ r₂ : Request) : Prop :=
  r₁ = r₂ ∨ r₁.method = .get ∧ ∃ v₁ v₂, Issued used v₁ v₂ ∧ r₁.bearer = some v₁ ∧
    r₂ = r₁.withBearer v₂

/-- The same client at work, apart from its token. -/
structure SameButToken (used : List PairUse) (c₁ : Client) (l₁ : Script) (c₂ : Client)
    (l₂ : Script) : Prop where
  client : c₂ = c₁.withToken c₂.auth.token
  token : TokensIssued used c₁.auth.token c₂.auth.token
  answers : l₁.answers.length = l₂.answers.length
  sent : List.Forall₂ (SentButToken used) l₁.sent l₂.sent

/-- The same between a ledger of both runs and the script of the second one. -/
structure LedgerButToken (used : List PairUse) (c₁ : Client) (l : Ledger (Answer × Answer))
    (c₂ : Client) (script : Script) : Prop where
  client : c₂ = c₁.withToken c₂.auth.token
  token : TokensIssued used c₁.auth.token c₂.auth.token
  answers : script.answers = l.waiting.map Prod.snd
  sent : List.Forall₂ (SentButToken used) (l.used.map Prod.fst) script.sent

variable {used : List PairUse} {c₁ c₂ : Client} {l : Ledger (Answer × Answer)} {script : Script}

theorem LedgerButToken.send {r₁ r₂ : Request} (h : LedgerButToken used c₁ l c₂ script)
    (hr : SentButToken used r₁ r₂) :
    LedgerButToken used c₁ (l.send Prod.fst r₁).2 c₂ (Script.send r₂ script).2 := by
  rw [Script.send_eq]
  refine ⟨h.client, h.token, ?_, ?_⟩
  · simp [Ledger.send, h.answers]
  · simp only [Ledger.send, List.map_append]
    exact List.rel_append h.sent (.cons hr .nil)

/-- Unless it is a login that both runs have accepted, a request is answered alike. -/
theorem LedgerButToken.outcome {r₁ r₂ : Request} (h : LedgerButToken used c₁ l c₂ script)
    (hurl : r₁.url = r₂.url) (hsame : ∀ p ∈ l.waiting.head?, p.1 = p.2) :
    (l.send Prod.fst r₁).1 = (Script.send r₂ script).1 := by
  rw [Script.send_eq, h.answers, ← hurl]
  cases hwaiting : l.waiting with
  | nil => simp [Ledger.send, hwaiting, Answer.outcome]
  | cons p rest =>
      have hp : p.1 = p.2 := hsame p (by simp [hwaiting])
      simp [Ledger.send, hwaiting, hp]

theorem LedgerButToken.withToken {t₁ t₂ : Option Token} (h : LedgerButToken used c₁ l c₂ script)
    (ht : TokensIssued used t₁ t₂) :
    LedgerButToken used (c₁.withToken t₁) l (c₂.withToken t₂) script := by
  refine ⟨?_, ht, h.answers, h.sent⟩
  rw [h.client]
  rfl

theorem outcome_eq_ok_iff {url : String} {a : Answer} {reply : Reply} :
    a.outcome url = .ok reply ↔ a = .reply reply := by
  cases a <;> simp [Answer.outcome]

/-- A login in two runs, of which both get the same or both are accepted. -/
theorem LedgerButToken.login {r : Request} (hmethod : r.method = .post)
    (h : LedgerButToken used c₁ l c₂ script) (huse : (r, l.waiting.head?) ∈ used)
    (hfair : PairUse.Fair (r, l.waiting.head?)) (now : Int) :
    ((l.send Prod.fst r).1 = (Script.send r script).1 ∧
      ∀ reply t, (l.send Prod.fst r).1 = .ok reply → Authenticator.accept now reply = .ok t →
        Issued used t.value t.value) ∨
    ∃ r₁ r₂ t₁ t₂, (l.send Prod.fst r).1 = .ok r₁ ∧ (Script.send r script).1 = .ok r₂ ∧
      Authenticator.accept now r₁ = .ok t₁ ∧ Authenticator.accept now r₂ = .ok t₂ ∧
      TokensIssued used (some t₁) (some t₂) := by
  cases hwaiting : l.waiting with
  | nil =>
      refine .inl ⟨h.outcome rfl (by simp [hwaiting]), fun reply t hreply => ?_⟩
      simp [Ledger.send, hwaiting] at hreply
  | cons p rest =>
      rw [hwaiting, List.head?_cons] at huse hfair
      rcases hfair p rfl with hsame | ⟨-, r₁, r₂, v₁, v₂, rfl, h₁, h₂⟩
      · refine .inl ⟨h.outcome rfl (by simpa [hwaiting] using hsame), fun reply t hreply ht => ?_⟩
        have hfirst : p.1 = .reply reply := by
          simpa [Ledger.send, hwaiting, outcome_eq_ok_iff] using hreply
        have hp : p = (.reply reply, .reply reply) := Prod.ext hfirst (hsame ▸ hfirst)
        have hissues := ((Authenticator.accept_eq_ok_iff now reply t).mp ht).1
        exact ⟨_, huse, hmethod, reply, reply, congrArg some hp, hissues, hissues⟩
      · refine .inr ⟨r₁, r₂, ⟨v₁, now + tokenLifetime⟩, ⟨v₂, now + tokenLifetime⟩, ?_, ?_,
          (Authenticator.accept_eq_ok_iff now r₁ _).mpr ⟨h₁, rfl⟩,
          (Authenticator.accept_eq_ok_iff now r₂ _).mpr ⟨h₂, rfl⟩,
          .some ⟨⟨_, huse, hmethod, r₁, r₂, rfl, h₁, h₂⟩, rfl⟩⟩
        · simp [Ledger.send, hwaiting, Answer.outcome]
        · simp [Script.send_eq, h.answers, hwaiting, Answer.outcome]

/-- Nothing but the bearers of requests for pages depends on the texts of the tokens. -/
theorem lockstep_token (hfair : ∀ u ∈ used, PairUse.Fair u) :
    Lockstep (Ledger.channel Prod.fst) (Script.channel Prod.snd) (fun l => ∀ u ∈ l.used, u ∈ used)
      (fun _ => True) (LedgerButToken used) where
  sound := Ledger.inherited_used Prod.fst _
  baseUrl := fun h => by rw [h.client]; rfl
  maxPages := fun h => by rw [h.client]; rfl
  listing := fun _ _ => trivial
  valid := fun now h => h.token.valid now
  forget := fun h => h.withToken .none
  login := by
    intro c₁ l c₂ script now h hsound
    have hkey : c₂.auth.apiKey = c₁.auth.apiKey := by rw [h.client]; rfl
    cases hkey₁ : c₁.auth.apiKey with
    | none =>
        rw [Authenticator.login_of_no_key hkey₁, Authenticator.login_of_no_key (hkey.trans hkey₁)]
        exact .failed _ h
    | some key =>
        let r := c₁.auth.loginRequest key
        have hlogin : c₂.auth.loginRequest key = r := by rw [h.client]; rfl
        have hsent := h.send (.inl rfl : SentButToken used r r)
        rw [Authenticator.login_of_key hkey₁] at hsound ⊢
        rw [Authenticator.login_of_key (hkey.trans hkey₁), hlogin]
        have huse : (r, l.waiting.head?) ∈ used :=
          hsound _ (List.mem_append_right _ (List.mem_singleton_self _))
        change LoginsAlike _ c₁ c₂ (Authenticator.conclude now (l.send Prod.fst r).1, _)
          (Authenticator.conclude now (Script.send r script).1, _)
        rcases h.login rfl huse (hfair _ huse) now with
          ⟨hout, hissued⟩ | ⟨r₁, r₂, t₁, t₂, ho₁, ho₂, ha₁, ha₂, ht⟩
        · rw [← hout]
          refine .of_same hsent fun t ht => hsent.withToken (.some ⟨?_, rfl⟩)
          cases ho : (l.send Prod.fst r).1 with
          | error e =>
              rw [ho] at ht
              cases ht
          | ok reply =>
              rw [ho] at ht
              exact hissued reply t ho ht
        · rw [ho₁, ho₂, Authenticator.conclude, Authenticator.conclude, ha₁, ha₂]
          exact .accepted (hsent.withToken ht)
  page := by
    intro c₁ l c₂ script endpoint t₁ t₂ page h _ h₁ h₂ hsound
    have htokens := h.token
    rw [h₁, h₂] at htokens
    cases htokens with
    | some ht =>
        have huse := hsound (pageRequest endpoint t₁ page, l.waiting.head?)
          (List.mem_append_right _ (List.mem_singleton_self _))
        refine ⟨h.outcome rfl fun p hp => ?_, h.send (.inr ⟨rfl, _, _, ht.1, rfl, rfl⟩)⟩
        have hget : (pageRequest endpoint t₁ page).method = .get := rfl
        exact (hfair _ huse p hp).resolve_right (by simp [hget])
  soundDelivery := fun _ _ h => h
  delivery := fun items h _ =>
    ⟨h.client, h.token, by simp [Script.channel, Ledger.channel, Script.enqueue, h.answers], h.sent⟩

/-! ### Two runs -/

/-- The ledger that a run of two scripts leaves, the first of which is played. -/
def ledgerBehind (c : Catalog (Session (Ledger (Answer × Answer))))
    (steps : List (CatalogStep (Answer × Answer))) (clock : Int) : Ledger (Answer × Answer) :=
  (c.leave (Ledger.channel Prod.fst) steps clock).source.link

/-- Runs with two keys, or with two scripts that differ in the texts of the tokens that accepted
logins issue: their answers, caches, events and requests are the same step by step, apart from the
keys in the bodies of logins, and from tokens and the bearers of requests for pages. In the end the
same answers are left. -/
structure SecrecySpec (baseUrl : String) (maxPages : UInt32) (db : Database) : Prop where
  key : ∀ k₁ k₂ steps clock, Text.isBlank k₁ = false → Text.isBlank k₂ = false →
    List.Forall₂ (Alike (SameButKey k₁ k₂))
      ((start (some k₁) baseUrl maxPages db ⟨[], []⟩).trace (Script.channel id) steps clock)
      ((start (some k₂) baseUrl maxPages db ⟨[], []⟩).trace (Script.channel id) steps clock)
  token : ∀ apiKey steps clock (ledger : Ledger (Answer × Answer)),
    ledgerBehind (start apiKey baseUrl maxPages db ⟨[], []⟩) steps clock = ledger →
    (∀ u ∈ ledger.used, PairUse.Fair u) → (∀ p ∈ ledger.waiting, p.1 = p.2) →
    List.Forall₂ (Alike (SameButToken ledger.used))
      ((start apiKey baseUrl maxPages db ⟨[], []⟩).trace (Script.channel Prod.fst) steps clock)
      ((start apiKey baseUrl maxPages db ⟨[], []⟩).trace (Script.channel Prod.snd) steps clock) ∧
    ((start apiKey baseUrl maxPages db ⟨[], []⟩).leave (Script.channel Prod.fst) steps
        clock).source.link.answers =
      ((start apiKey baseUrl maxPages db ⟨[], []⟩).leave (Script.channel Prod.snd) steps
        clock).source.link.answers

/-- Over a script, neither keys nor tokens show in what a catalog answers, stores and reports. -/
theorem secrecySpec (baseUrl : String) (maxPages : UInt32) (db : Database) :
    SecrecySpec baseUrl maxPages db where
  key := by
    intro k₁ k₂ steps clock h₁ h₂
    have hkey {k : String} (hk : Text.isBlank k = false) : Text.nonBlank? (some k) = some k := by
      simp [Text.nonBlank?, Option.filter, hk]
    refine (lockstep_key k₁ k₂).trace steps clock ⟨rfl, rfl, ?_⟩ trivial
    refine ⟨hkey h₁, ?_, rfl, .nil⟩
    simp only [start, Client.withMaxPages, Client.new, Authenticator.new, hkey h₂]
  token := by
    rintro apiKey steps clock _ rfl hfair hleft
    let c (σ : Type) (link : σ) := start apiKey baseUrl maxPages db link
    have hfirst : Corresponds (Session.SameClient fun l script => script = l.script Prod.fst)
        (c (Ledger (Answer × Answer)) ⟨[], []⟩) (c Script ⟨[], []⟩) := ⟨rfl, rfl, rfl, rfl⟩
    have hsecond (used : List PairUse) : Corresponds (LedgerButToken used)
        (c (Ledger (Answer × Answer)) ⟨[], []⟩) (c Script ⟨[], []⟩) :=
      ⟨rfl, rfl, rfl, .none, rfl, .nil⟩
    have S₁ := Ledger.lockstep_script (Prod.fst : Answer × Answer → Answer)
    have S₂ := lockstep_token hfair
    constructor
    · refine forall₂_alike ?_ (S₁.trace steps clock hfirst trivial)
        (S₂.trace steps clock (hsecond _) fun _ hu => hu)
      rintro c l _ _ c₂ script ⟨rfl, rfl⟩ h
      refine ⟨h.client, h.token, ?_, h.sent⟩
      simp [Ledger.script, h.answers]
    · have h₁ := (S₁.leave steps clock hfirst trivial).work.2
      have h₂ := (S₂.leave steps clock (hsecond _) fun _ hu => hu).work.answers
      refine (congrArg Script.answers h₁).trans (Eq.trans ?_ h₂.symm)
      exact List.map_congr_left hleft

def accepting (token : String) : Reply :=
  ⟨200, "\x7b\"status\":\"success\",\"data\":\x7b\"token\":\"" ++ token ++ "\"\x7d\x7d"⟩

def sharedPage : Answer × Answer :=
  let page : Answer :=
    .reply ⟨200, "\x7b\"data\":\x7b\"episodes\":[\x7b\"seasonNumber\":1,\"number\":1\x7d]\x7d\x7d"⟩
  (page, page)

/-- A lookup that logs in with another token in either run. -/
def twoTokens : List (CatalogStep (Answer × Answer)) :=
  [.deliver [(.reply (accepting "t"), .reply (accepting "u")), sharedPage], .move (.get "42" false)]

/-- A login that is accepted with two tokens, and the same page behind it. -/
theorem secrecySpec_twoTokens :
    let c (σ : Type) (link : σ) := start (some "key") defaultBaseUrl defaultMaxPages .empty link
    let ledger := ledgerBehind (c _ ⟨[], []⟩) twoTokens 0
    (∀ u ∈ ledger.used, PairUse.Fair u) ∧ (∀ p ∈ ledger.waiting, p.1 = p.2) ∧
      (∃ u ∈ ledger.used, ∃ p ∈ u.2, p.1 ≠ p.2) ∧
      List.Forall₂ (Alike (SameButToken ledger.used))
        ((c _ ⟨[], []⟩).trace (Script.channel Prod.fst) twoTokens 0)
        ((c _ ⟨[], []⟩).trace (Script.channel Prod.snd) twoTokens 0) := by
  intro c ledger
  have hledger : ledgerBehind (start (some "key") defaultBaseUrl defaultMaxPages .empty ⟨[], []⟩)
      twoTokens 0 = ⟨[], [
        (.postJson "https://api4.thetvdb.com/v4/login" (.object [("apikey", .text "key")]),
          some (.reply (accepting "t"), .reply (accepting "u"))),
        (pageRequest "https://api4.thetvdb.com/v4/series/42/episodes/default" ⟨"t", 86400⟩ 0,
          some sharedPage)]⟩ := by
    set_option maxRecDepth 4000 in cbv
  have hissues : (accepting "t").Issues "t" ∧ (accepting "u").Issues "u" :=
    ⟨⟨rfl, by decide, ⟨some "success", some "t", none⟩, by decide +kernel, rfl, rfl⟩,
      ⟨rfl, by decide, ⟨some "success", some "u", none⟩, by decide +kernel, rfl, rfl⟩⟩
  have hfair : ∀ u ∈ ledger.used, PairUse.Fair u := by
    rw [show ledger = _ from hledger, List.forall_mem_cons, List.forall_mem_singleton]
    constructor
    · rintro _ ⟨⟩
      exact .inr ⟨rfl, _, _, "t", "u", rfl, hissues⟩
    · rintro _ ⟨⟩
      exact .inl rfl
  have hleft : ∀ p ∈ ledger.waiting, p.1 = p.2 := by
    rw [show ledger = _ from hledger]
    exact List.forall_mem_nil _
  have hother : ∃ u ∈ ledger.used, ∃ p ∈ u.2, p.1 ≠ p.2 := by
    rw [show ledger = _ from hledger]
    refine ⟨_, List.mem_cons_self, _, rfl, by decide +kernel⟩
  exact ⟨hfair, hleft, hother,
    ((secrecySpec defaultBaseUrl defaultMaxPages .empty).token (some "key") twoTokens 0 ledger rfl
      hfair hleft).1⟩

end Catalog

end EpisodeGuide
