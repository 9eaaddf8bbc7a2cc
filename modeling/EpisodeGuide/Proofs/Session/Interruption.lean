import EpisodeGuide.Proofs.Session.Execution
import EpisodeGuide.Proofs.Session.Walk

/-! # Rejections that do not show

A page is refused for the token just before it would have been answered, and the login behind is
accepted. Over such answers a fetch asks for the page once more and otherwise goes as it would
have gone: it finds the same episodes and leaves the same answers. -/

namespace EpisodeGuide

open Http Provider

/-- A page that is refused for the token, and the reply to the login behind it, which issues a new
one. -/
structure Renewal where
  complaint : String
  login : Reply
  token : String
  issues : login.Issues token

def Renewal.answers (r : Renewal) : List Answer :=
  [.reply ⟨401, r.complaint⟩, .reply r.login]

/-! ### Answers and exchanges with renewals -/

section Interrupting

variable (chosen : ℕ → Option Renewal) (login : Request)

/-- The renewal of the page that is asked for, if there is one. -/
def Exchange.renewal? (e : Exchange) : Option Renewal :=
  e.page?.bind chosen

/-- The answers to some exchanges, and those that are left, with the renewals put in: each stands
just before the answer to its page. -/
def interrupt : List Exchange → List Answer → List Answer
  | [], answers => answers
  | e :: es, answers =>
      (e.renewal? chosen).elim [] Renewal.answers ++ (answers.take 1 ++ interrupt es answers.tail)

/-- The exchange with another credential in its page request. -/
def Exchange.carrying (credential : Option String) (e : Exchange) : Exchange :=
  match credential, e.request.method with
  | some value, .get => { e with request := e.request.withBearer value }
  | _, _ => e

/-- What takes the place of an exchange: for a page with a renewal, the page request that is
refused, one login, and the page request with the new token. -/
def Exchange.interrupted (credential : Option String) (e : Exchange) : List Exchange :=
  match e.renewal? chosen with
  | none => [e.carrying credential]
  | some r =>
      [{ e.carrying credential with outcome := .ok ⟨401, r.complaint⟩ },
        ⟨e.time, login, .ok r.login⟩, e.carrying (some r.token)]

/-- The credential after an exchange: that of the last renewal, until the run logs in itself. -/
def Exchange.credential (credential : Option String) (e : Exchange) : Option String :=
  match e.renewal? chosen, e.request.method with
  | some r, _ => some r.token
  | none, .post => none
  | none, .get => credential

def interruptedExchanges : Option String → List Exchange → List Exchange
  | _, [] => []
  | credential, e :: es =>
      e.interrupted chosen login credential ++
        interruptedExchanges (e.credential chosen credential) es

def credentialAfter (credential : Option String) (es : List Exchange) : Option String :=
  es.foldl (Exchange.credential chosen) credential

end Interrupting

variable {chosen : ℕ → Option Renewal} {login : Request} {credential : Option String}
  {es xs ys : List Exchange} {e : Exchange}

theorem renewal?_of_post (h : e.request.method = .post) : e.renewal? chosen = none := by
  simp [Exchange.renewal?, Exchange.page?_of_post h]

theorem carrying_of_post (h : e.request.method = .post) : e.carrying credential = e := by
  cases credential <;> simp [Exchange.carrying, h]

theorem interruptedExchanges_append (credential : Option String) (xs ys : List Exchange) :
    interruptedExchanges chosen login credential (xs ++ ys) =
      interruptedExchanges chosen login credential xs ++
        interruptedExchanges chosen login (credentialAfter chosen credential xs) ys := by
  induction xs generalizing credential with
  | nil => rfl
  | cons x xs ih =>
      rw [List.cons_append, interruptedExchanges, interruptedExchanges, ih, List.append_assoc]
      rfl

theorem credentialAfter_append (credential : Option String) (xs ys : List Exchange) :
    credentialAfter chosen credential (xs ++ ys) =
      credentialAfter chosen (credentialAfter chosen credential xs) ys :=
  List.foldl_append

theorem credentialAfter_singleton_get (h : e.renewal? chosen = none)
    (hget : e.request.method = .get) : credentialAfter chosen credential [e] = credential := by
  simp [credentialAfter, Exchange.credential, h, hget]

theorem interruptedExchanges_of_post (h : ∀ e ∈ es, e.request.method = .post) :
    interruptedExchanges chosen login credential es = es := by
  induction es generalizing credential with
  | nil => rfl
  | cons e es ih =>
      obtain ⟨he, hes⟩ := List.forall_mem_cons.mp h
      simp [interruptedExchanges, Exchange.interrupted, renewal?_of_post he, carrying_of_post he,
        ih hes]

/-! ### Authenticators with other tokens -/

/-- Two authenticators are the same, or both hold a good token and the second one's is the
credential of a renewal. -/
inductive TokenShift (now : Int) : Option String → Authenticator → Authenticator → Prop where
  | same (a) : TokenShift now none a a
  | other {a t u} : a.token = some t → now < t.expiresAt → now < u.expiresAt →
      TokenShift now (some u.value) a { a with token := some u }

variable {now : Int} {series endpoint : String} {page room : ℕ} {a b a' : Authenticator}

/-- Forgetting the token takes the difference away. -/
theorem TokenShift.invalidate_eq (h : TokenShift now credential a b) :
    b.invalidate = a.invalidate := by
  cases h <;> rfl

/-- Whoever holds a token has the key to get another one. -/
def Authenticator.Keyed (a : Authenticator) : Prop :=
  a.token ≠ none → a.apiKey ≠ none

theorem TokenDerivation.invalidate_eq {token : Option Token}
    (h : TokenDerivation now a es token a') : a'.invalidate = a.invalidate := by
  cases h <;> rfl

theorem TokenDerivation.keyed {token : Option Token} (h : TokenDerivation now a es token a')
    (hk : a.Keyed) : a'.Keyed := by
  cases h with
  | held | keyless | refused => exact hk
  | issued h hkey => simp [Authenticator.Keyed, hkey]

theorem TokenDerivation.shift {token : Option Token} (h : TokenDerivation now a es token a')
    (chosen : ℕ → Option Renewal) (hs : TokenShift now credential a b) :
    ∃ token' b', TokenDerivation now b es token' b' ∧
      TokenShift now (credentialAfter chosen credential es) a' b' ∧
      token'.map Token.value =
        token.map fun t => (credentialAfter chosen credential es).getD t.value := by
  cases hs with
  | same =>
      have hnone : credentialAfter chosen none es = none := by
        cases h <;> simp [credentialAfter, Exchange.credential, renewal?_of_post,
          Authenticator.loginRequest, Request.postJson]
      rw [hnone]
      exact ⟨token, a', h, .same a', by simp⟩
  | @other _ t u ht hvalid hvalid' =>
      have ha := (Authenticator.currentToken_eq_some_iff now a t).mpr ⟨ht, hvalid⟩
      have hb := (Authenticator.currentToken_eq_some_iff now { a with token := some u } u).mpr
        ⟨rfl, hvalid'⟩
      obtain ⟨rfl, rfl, rfl⟩ := h.of_held ha
      exact ⟨some u, _, .held hb, .other ht hvalid hvalid', rfl⟩

/-- The page request with the credential of a renewal is one with another token. -/
theorem carrying_pageRequest {t t' : Token} {n : ℕ} {outcome : Except TransportError Reply}
    (h : t'.value = credential.getD t.value) :
    (⟨now, pageRequest endpoint t n, outcome⟩ : Exchange).carrying credential =
      ⟨now, pageRequest endpoint t' n, outcome⟩ := by
  cases credential with
  | none => simp [Exchange.carrying, pageRequest, h]
  | some value =>
      simp [Exchange.carrying, pageRequest, Request.get, Request.withBearer, Request.withQuery, h]

/-! ### Pages without a renewal -/

section Unchosen

variable {result : Except PageError Page}

theorem PageDerivation.invalidate_eq (h : PageDerivation now endpoint page a es result a') :
    a'.invalidate = a.invalidate := by
  cases h with
  | noToken ht | asked _ ht => exact ht.invalidate_eq

theorem PageDerivation.keyed (h : PageDerivation now endpoint page a es result a')
    (hk : a.Keyed) : a'.Keyed := by
  cases h with
  | noToken ht | asked _ ht => exact ht.keyed hk

/-- Without a renewal a page is asked for as before, with the other token. -/
theorem PageDerivation.shift (h : PageDerivation now endpoint page a es result a')
    (hs : TokenShift now credential a b) (hc : chosen page = none) :
    ∃ b', PageDerivation now endpoint page b
        (interruptedExchanges chosen login credential es) result b' ∧
      TokenShift now (credentialAfter chosen credential es) a' b' := by
  cases h with
  | noToken ht =>
      obtain ⟨token', b', hb, hshift, htoken⟩ := ht.shift chosen hs
      obtain rfl : token' = none := by simpa using htoken
      rw [interruptedExchanges_of_post ht.login_only]
      exact ⟨b', .noToken hb, hshift⟩
  | @asked ls t _ outcome ht =>
      obtain ⟨token', b', hb, hshift, htoken⟩ := ht.shift chosen hs
      obtain ⟨t', rfl, hvalue⟩ : ∃ t', token' = some t' ∧
          t'.value = (credentialAfter chosen credential ls).getD t.value := by
        simpa using htoken
      have hrenewal : (⟨now, pageRequest endpoint t page, outcome⟩ : Exchange).renewal? chosen =
          none := by simp [Exchange.renewal?, hc]
      refine ⟨b', ?_, ?_⟩
      · rw [interruptedExchanges_append, interruptedExchanges_of_post ht.login_only]
        simp only [interruptedExchanges, Exchange.interrupted, hrenewal, List.append_nil,
          carrying_pageRequest hvalue]
        exact .asked outcome hb
      · rw [credentialAfter_append, credentialAfter_singleton_get hrenewal rfl]
        exact hshift

/-- A client with a key that holds no token logs in first. -/
theorem PageDerivation.login_first (h : PageDerivation now endpoint page a es result a')
    (htoken : a.token = none) (hkey : a.apiKey ≠ none) :
    ∃ e rest, es = e :: rest ∧ e.request.method = .post := by
  have hlogin {ls : List Exchange} {token : Option Token} {a' : Authenticator}
      (ht : TokenDerivation now a ls token a') : ∃ e, ls = [e] ∧ e.request.method = .post := by
    cases ht with
    | held h => simp [Authenticator.currentToken, htoken] at h
    | keyless _ hk => exact (hkey hk).elim
    | refused | issued => exact ⟨_, rfl, rfl⟩
  cases h with
  | noToken ht =>
      obtain ⟨e, rfl, he⟩ := hlogin ht
      exact ⟨e, [], rfl, he⟩
  | asked outcome ht =>
      obtain ⟨e, rfl, he⟩ := hlogin ht
      exact ⟨e, _, rfl, he⟩

/-- Behind a refusal the run logs in itself, and no credential of a renewal counts any more. -/
theorem PageDerivation.shift_retry (h : PageDerivation now endpoint page a.invalidate es result a')
    (hkey : a.apiKey ≠ none) (hc : chosen page = none) :
    ∃ b', PageDerivation now endpoint page a.invalidate
        (interruptedExchanges chosen login credential es) result b' ∧
      TokenShift now (credentialAfter chosen credential es) a' b' := by
  obtain ⟨e, rest, rfl, he⟩ := h.login_first rfl hkey
  have hsame : interruptedExchanges chosen login credential (e :: rest) =
      interruptedExchanges chosen login none (e :: rest) := by
    simp [interruptedExchanges, Exchange.interrupted, Exchange.credential, renewal?_of_post he,
      carrying_of_post he, he]
  have hafter : credentialAfter chosen credential (e :: rest) =
      credentialAfter chosen none (e :: rest) := by
    simp [credentialAfter, Exchange.credential, renewal?_of_post he, he]
  rw [hsame, hafter]
  exact h.shift (.same _) hc

end Unchosen

/-! ### Pages with a renewal -/

section Chosen

variable {result : Except PageError Page}

/-- The login of whoever has a key. -/
def Authenticator.LogsInBy (a : Authenticator) (login : Request) : Prop :=
  ∀ key, a.apiKey = some key → login = a.loginRequest key

theorem Authenticator.LogsInBy.of_invalidate_eq (h : a.LogsInBy login)
    (heq : a'.invalidate = a.invalidate) : a'.LogsInBy login := by
  obtain ⟨apiKey, loginUrl, token⟩ := a
  obtain ⟨apiKey', loginUrl', token'⟩ := a'
  obtain ⟨rfl, rfl⟩ : apiKey' = apiKey ∧ loginUrl' = loginUrl := by
    simpa [Authenticator.invalidate] using heq
  exact h

/-- With a renewal a page is refused and asked for again with the new token. -/
theorem PageDerivation.shift_renewed {r : Renewal}
    (h : PageDerivation now endpoint page a es result a') (hr : result ≠ .error .unauthorized)
    (hs : TokenShift now credential a b) (hk : a.Keyed) (hlogin : a.LogsInBy login)
    (hc : chosen page = some r) :
    ∃ b', RequestDerivation now endpoint page b
        (interruptedExchanges chosen login credential es) result b' ∧
      TokenShift now (credentialAfter chosen credential es) a' b' := by
  cases h with
  | noToken ht =>
      obtain ⟨token', b', hb, hshift, htoken⟩ := ht.shift chosen hs
      obtain rfl : token' = none := by simpa using htoken
      rw [interruptedExchanges_of_post ht.login_only]
      exact ⟨b', .once (.noToken hb) hr, hshift⟩
  | @asked ls t _ outcome ht =>
      obtain ⟨token', b', hb, hshift, htoken⟩ := ht.shift chosen hs
      obtain ⟨t', rfl, hvalue⟩ : ∃ t', token' = some t' ∧
          t'.value = (credentialAfter chosen credential ls).getD t.value := by
        simpa using htoken
      have hrenewal : (⟨now, pageRequest endpoint t page, outcome⟩ : Exchange).renewal? chosen =
          some r := by simp [Exchange.renewal?, hc]
      have hheld : a'.token ≠ none := by simp [ht.valid.1]
      obtain ⟨key, hkey⟩ := Option.ne_none_iff_exists'.mp (ht.keyed hk hheld)
      have hkey' : b'.invalidate.apiKey = some key := by
        rw [hshift.invalidate_eq]
        exact hkey
      have hsame : b'.invalidate.invalidate = a.invalidate :=
        hshift.invalidate_eq.trans ht.invalidate_eq
      obtain rfl : login = b'.invalidate.loginRequest key :=
        hlogin.of_invalidate_eq hsame key hkey'
      let u : Token := ⟨r.token, now + tokenLifetime⟩
      have hissues : (⟨now, b'.invalidate.loginRequest key, .ok r.login⟩ : Exchange).Issues u :=
        ⟨rfl, r.login, rfl, r.issues, rfl⟩
      have hrefused : PageDerivation now endpoint page b
          (ls ++ [⟨now, pageRequest endpoint t' page, .ok ⟨401, r.complaint⟩⟩])
          (.error .unauthorized) b' := .asked (.ok ⟨401, r.complaint⟩) hb
      have hretried : PageDerivation now endpoint page b'.invalidate
          ([⟨now, b'.invalidate.loginRequest key, .ok r.login⟩] ++
            [⟨now, pageRequest endpoint u page, outcome⟩])
          (pageOf outcome) { b'.invalidate with token := some u } :=
        .asked outcome (.issued rfl hkey' hissues)
      refine ⟨{ b'.invalidate with token := some u }, ?_, ?_⟩
      · rw [interruptedExchanges_append, interruptedExchanges_of_post ht.login_only]
        have hall := RequestDerivation.renewed hrefused hretried hr
        have hcarrying : (⟨now, pageRequest endpoint t page, outcome⟩ : Exchange).carrying
            (some r.token) = ⟨now, pageRequest endpoint u page, outcome⟩ := carrying_pageRequest rfl
        simpa [interruptedExchanges, Exchange.interrupted, hrenewal, carrying_pageRequest hvalue,
          hcarrying] using hall
      · have hu : now < u.expiresAt := hissues.expiresAt_gt
        have hsettings : { b'.invalidate with token := some u } = { a' with token := some u } := by
          rw [hshift.invalidate_eq]
          rfl
        rw [credentialAfter_append, hsettings]
        simp only [credentialAfter, List.foldl_cons, List.foldl_nil, Exchange.credential, hrenewal]
        exact .other ht.valid.1 ht.valid.2 hu

theorem PageDerivation.refused_of_unauthorized
    (h : PageDerivation now endpoint page a es (.error .unauthorized) a') :
    (∃ e ∈ es, e.page? = some page ∧ e.Refused) ∧ a'.token ≠ none := by
  refine ⟨h.exists_refused, ?_⟩
  generalize hresult : (Except.error PageError.unauthorized : Except PageError Page) = result at h
  cases h with
  | noToken => cases hresult
  | asked outcome ht => simp [ht.valid.1]

/-- A request for a page goes as before, with the renewal of the page put in. -/
theorem RequestDerivation.shift (h : RequestDerivation now endpoint page a es result a')
    (hs : TokenShift now credential a b) (hk : a.Keyed) (hlogin : a.LogsInBy login)
    (hc : ∀ e ∈ es, e.page? = some page → chosen page ≠ none → ¬ e.Refused) :
    ∃ b', RequestDerivation now endpoint page b
        (interruptedExchanges chosen login credential es) result b' ∧
      (result ≠ .error .unauthorized →
        TokenShift now (credentialAfter chosen credential es) a' b') := by
  -- A page that the run itself is refused has no renewal.
  have hunchosen {ls : List Exchange} {auth auth' : Authenticator}
      (hp : PageDerivation now endpoint page auth ls (.error .unauthorized) auth')
      (hls : ∀ e ∈ ls, e ∈ es) : chosen page = none := by
    obtain ⟨⟨e, he, hpage, hrefused⟩, -⟩ := hp.refused_of_unauthorized
    by_contra hchosen
    exact hc e (hls e he) hpage hchosen hrefused
  cases h with
  | once hp hr =>
      cases hchosen : chosen page with
      | none =>
          obtain ⟨b', hb, hshift⟩ := hp.shift hs hchosen
          exact ⟨b', .once hb hr, fun _ => hshift⟩
      | some r =>
          obtain ⟨b', hb, hshift⟩ := hp.shift_renewed hr hs hk hlogin hchosen
          exact ⟨b', hb, fun _ => hshift⟩
  | renewed hp hp' hr =>
      have hchosen := hunchosen hp fun e he => List.mem_append_left _ he
      obtain ⟨b', hb, hshift⟩ := hp.shift hs hchosen
      have hkey := hp.keyed hk hp.refused_of_unauthorized.2
      obtain ⟨b'', hb', hshift'⟩ := hp'.shift_retry hkey hchosen
      rw [← hshift.invalidate_eq] at hb'
      refine ⟨b'', ?_, fun _ => ?_⟩
      · rw [interruptedExchanges_append]
        exact .renewed hb hb' hr
      · rw [credentialAfter_append]
        exact hshift'
  | rejected hp hp' =>
      have hchosen := hunchosen hp fun e he => List.mem_append_left _ he
      obtain ⟨b', hb, hshift⟩ := hp.shift hs hchosen
      have hkey := hp.keyed hk hp.refused_of_unauthorized.2
      obtain ⟨b'', hb', hshift'⟩ := hp'.shift_retry hkey hchosen
      rw [← hshift.invalidate_eq] at hb'
      refine ⟨b''.invalidate, ?_, fun hne => (hne rfl).elim⟩
      rw [interruptedExchanges_append]
      exact .rejected hb hb'

theorem RequestDerivation.invalidate_eq (h : RequestDerivation now endpoint page a es result a') :
    a'.invalidate = a.invalidate := by
  cases h with
  | once hp => exact hp.invalidate_eq
  | renewed hp hp' | rejected hp hp' => exact hp'.invalidate_eq.trans hp.invalidate_eq

theorem RequestDerivation.keyed (h : RequestDerivation now endpoint page a es result a')
    (hk : a.Keyed) : a'.Keyed := by
  cases h with
  | once hp => exact hp.keyed hk
  | renewed hp hp' => exact hp'.keyed fun hne => (hne rfl).elim
  | rejected hp hp' => exact fun hne => (hne rfl).elim

end Chosen

/-! ### Walks -/

variable {found : List Episode}

theorem WalkDerivation.keyed (h : WalkDerivation now series endpoint room page a es found a')
    (hk : a.Keyed) : a'.Keyed := by
  induction h with
  | limit => exact hk
  | stopped hp | last hp => exact hp.keyed hk
  | next hp _ _ _ ih => exact ih (hp.keyed hk)

/-- A walk goes as before, with the renewals put in. -/
theorem WalkDerivation.shift (h : WalkDerivation now series endpoint room page a es found a')
    (hs : TokenShift now credential a b) (hk : a.Keyed) (hlogin : a.LogsInBy login)
    (hc : ∀ n, ∀ e ∈ es, e.page? = some n → chosen n ≠ none → ¬ e.Refused) :
    ∃ b', WalkDerivation now series endpoint room page b
      (interruptedExchanges chosen login credential es) found b' := by
  induction h generalizing b credential with
  | limit => exact ⟨b, .limit _ _⟩
  | stopped hp =>
      obtain ⟨b', hb, -⟩ := hp.shift hs hk hlogin (hc _)
      exact ⟨b', .stopped hb⟩
  | last hp hend =>
      obtain ⟨b', hb, -⟩ := hp.shift hs hk hlogin (hc _)
      exact ⟨b', .last hb hend⟩
  | next hp hne hnext _ ih =>
      obtain ⟨b', hb, hshift⟩ := hp.shift hs hk hlogin
        fun e he => hc _ e (List.mem_append_left _ he)
      obtain ⟨b'', hrest⟩ := ih (hshift (by simp)) (hp.keyed hk)
        (hlogin.of_invalidate_eq hp.invalidate_eq)
        fun n e he => hc n e (List.mem_append_right _ he)
      rw [interruptedExchanges_append]
      exact ⟨b'', .next hb hne hnext hrest⟩

/-! ### Answers -/

/-- Nothing is sent behind a request that had no reply. -/
def Replied (es : List Exchange) : Prop :=
  es.IsChain fun e _ => ∃ reply, e.outcome = .ok reply

theorem TokenDerivation.replied {token : Option Token} (h : TokenDerivation now a es token a') :
    Replied es := by
  cases h <;> simp [Replied]

section Replied

variable {result : Except PageError Page}

theorem PageDerivation.last_replied (h : PageDerivation now endpoint page a es result a')
    (hr : result = .error .unauthorized ∨ ∃ body, result = .ok body) :
    ∀ e ∈ es.getLast?, ∃ reply, e.outcome = .ok reply := by
  cases h with
  | noToken => simp at hr
  | asked outcome ht =>
      intro e he
      obtain rfl : _ = e := by simpa using he
      cases outcome with
      | error fault => simp [pageOf] at hr
      | ok reply => exact ⟨reply, rfl⟩

theorem PageDerivation.replied (h : PageDerivation now endpoint page a es result a') :
    Replied es := by
  cases h with
  | noToken ht => exact ht.replied
  | asked outcome ht =>
      refine List.isChain_append.mpr ⟨ht.replied, by simp, ?_⟩
      intro e he _ _
      rcases ht.of_some with ⟨rfl, -⟩ | ⟨-, login, rfl, -, -, reply, hreply, -⟩
      · simp at he
      · obtain rfl : login = e := by simpa using he
        exact ⟨reply, hreply⟩

theorem RequestDerivation.last_replied {body : Page}
    (h : RequestDerivation now endpoint page a es (.ok body) a') :
    ∀ e ∈ es.getLast?, ∃ reply, e.outcome = .ok reply := by
  cases h with
  | once hp => exact hp.last_replied (.inr ⟨body, rfl⟩)
  | @renewed xs ys _ _ _ hp hp' =>
      intro e he
      cases hys : ys.getLast? with
      | none =>
          obtain rfl := List.getLast?_eq_none_iff.mp hys
          rw [List.append_nil] at he
          exact hp.last_replied (.inl rfl) e he
      | some y =>
          rw [List.getLast?_append, hys, Option.some_or] at he
          exact hp'.last_replied (.inr ⟨body, rfl⟩) e (hys.trans he)

theorem RequestDerivation.replied (h : RequestDerivation now endpoint page a es result a') :
    Replied es := by
  cases h with
  | once hp => exact hp.replied
  | renewed hp hp' | rejected hp hp' =>
      exact List.isChain_append.mpr
        ⟨hp.replied, hp'.replied, fun e he _ _ => hp.last_replied (.inl rfl) e he⟩

theorem WalkDerivation.replied (h : WalkDerivation now series endpoint room page a es found a') :
    Replied es := by
  induction h with
  | limit => simp [Replied]
  | stopped hp | last hp => exact hp.replied
  | next hp _ _ _ ih =>
      exact List.isChain_append.mpr ⟨hp.replied, ih, fun e he _ _ => hp.last_replied e he⟩

end Replied

theorem carrying_url (credential : Option String) (e : Exchange) :
    (e.carrying credential).request.url = e.request.url := by
  unfold Exchange.carrying
  split <;> rfl

theorem carrying_outcome (credential : Option String) (e : Exchange) :
    (e.carrying credential).outcome = e.outcome := by
  unfold Exchange.carrying
  split <;> rfl

theorem Http.Script.send_interrupt {answers : List Answer} (h : answers = [] → es = [])
    (request : Request) (sent : List Request) :
    Script.send request ⟨answers.take 1 ++ interrupt chosen es answers.tail, sent⟩ =
      ((Script.send request ⟨answers, sent⟩).1,
        ⟨interrupt chosen es answers.tail, sent ++ [request]⟩) := by
  cases answers with
  | nil =>
      obtain rfl := h rfl
      rfl
  | cons answer answers => rfl

/-- An outcome depends on the address and on the next answer only. -/
theorem Http.Script.send_fst {request request' : Request} (script : Script) (sent : List Request)
    (hurl : request'.url = request.url) :
    (Script.send request' ⟨script.answers, sent⟩).1 = (Script.send request script).1 := by
  rw [Script.send_eq, Script.send_eq, hurl]

/-- Nothing is sent any more when the answers have run out. -/
theorem Replied.eq_nil {script : Script} (h : Replied (e :: es))
    (houtcome : e.outcome = (Script.send e.request script).1) (hanswers : script.answers = []) :
    es = [] := by
  cases es with
  | nil => rfl
  | cons =>
      obtain ⟨reply, hreply⟩ := (List.isChain_cons_cons.mp h).1
      rw [Script.send_eq, hanswers] at houtcome
      cases houtcome.symm.trans hreply

/-- The answers with the renewals put in are those to the exchanges with the renewals put in. -/
theorem Conversation.interrupted {script script' : Script}
    (h : Conversation Script.send script es script') (chosen : ℕ → Option Renewal)
    (login : Request) (hreplied : Replied es) (credential : Option String) (sent : List Request) :
    ∃ rest, Conversation Script.send ⟨interrupt chosen es script.answers, sent⟩
        (interruptedExchanges chosen login credential es) rest ∧
      rest.answers = script'.answers := by
  induction es generalizing script credential sent with
  | nil =>
      obtain rfl := conversation_nil_iff.mp h
      exact ⟨_, .silent _, rfl⟩
  | cons e es ih =>
      obtain ⟨houtcome, hrest⟩ := conversation_cons_iff.mp h
      have hlast := hreplied.eq_nil houtcome
      rw [Script.send_eq] at hrest
      -- The exchange itself, whichever credential it carries, and all that comes behind it.
      have hstep (x : Exchange) (credential : Option String) (sent : List Request)
          (hurl : x.request.url = e.request.url) (hx : x.outcome = e.outcome) :
          ∃ rest, Conversation Script.send
              ⟨script.answers.take 1 ++ interrupt chosen es script.answers.tail, sent⟩
              (x :: interruptedExchanges chosen login credential es) rest ∧
            rest.answers = script'.answers := by
        obtain ⟨rest, hconversation, hleft⟩ := ih hrest hreplied.tail credential
          (sent ++ [x.request])
        refine ⟨rest, conversation_cons_iff.mpr ?_, hleft⟩
        rw [Script.send_interrupt hlast, Script.send_fst script sent hurl]
        exact ⟨hx.trans houtcome, hconversation⟩
      cases hrenewal : e.renewal? chosen with
      | none =>
          obtain ⟨rest, hconversation, hleft⟩ := hstep (e.carrying credential)
            (e.credential chosen credential) sent (carrying_url _ e) (carrying_outcome _ e)
          refine ⟨rest, ?_, hleft⟩
          simpa [interrupt, interruptedExchanges, Exchange.interrupted, hrenewal] using
            hconversation
      | some r =>
          obtain ⟨rest, hconversation, hleft⟩ := hstep (e.carrying (some r.token))
            (e.credential chosen credential) (sent ++ [(e.carrying credential).request] ++ [login])
            (carrying_url _ e) (carrying_outcome _ e)
          refine ⟨rest, ?_, hleft⟩
          simp only [interrupt, interruptedExchanges, Exchange.interrupted, hrenewal]
          refine conversation_cons_iff.mpr ⟨rfl, conversation_cons_iff.mpr ⟨rfl, ?_⟩⟩
          exact hconversation

/-! ### Fetching a listing -/

/-- A page whose first request is not refused is asked for once. -/
theorem WalkDerivation.not_refused {n : ℕ}
    (h : WalkDerivation now series endpoint room page a es found a')
    (hfirst : ∀ e ∈ (sincePage n es).head?, ¬ e.Refused) :
    ∀ e ∈ es, e.page? = some n → ¬ e.Refused := by
  intro e he hpage
  have honce : (pagesAsked es).count n ≤ 1 := by
    have htwice : (pagesAsked es).count n ≠ 2 := fun htwo => by
      obtain ⟨first, login, later, hsince, hrefused, -⟩ := (h.count_eq_two_iff n).mp htwo
      exact hfirst first (by simp [hsince]) hrefused
    have hbound := h.count_le_two n
    omega
  obtain ⟨before, after, rfl⟩ := List.mem_iff_append.mp he
  have hbefore : n ∉ pagesAsked before := by
    have hpages : pagesAsked (e :: after) = n :: pagesAsked after := List.filterMap_cons_some hpage
    rw [pagesAsked_append, hpages, List.count_append, List.count_cons_self] at honce
    exact List.count_eq_zero.mp (by omega)
  have hsince : sincePage n (before ++ e :: after) = e :: after := by
    rw [sincePage_append_right hbefore]
    simp [sincePage, hpage]
  exact hfirst e (by simp [hsince])

namespace Session

/-- The sessions that a client passes through: it is set up, its limit is set, it fetches, and the
other side of the link changes; its events may be taken away. -/
inductive InUse {σ : Type} (send : Transport σ) : Session σ → Prop where
  | start (apiKey baseUrl maxPages link) : InUse send (Session.start apiKey baseUrl maxPages link)
  | limited {s} (maxPages) :
      InUse send s → InUse send { s with client := s.client.withMaxPages maxPages }
  | fetched {s} (now series) : InUse send s → InUse send (s.fetch send now series).2
  | outside {s} (change : σ → σ) : InUse send s → InUse send { s with link := change s.link }
  | collected {s} : InUse send s → InUse send { s with log := [] }

theorem InUse.keyed {σ : Type} {send : Transport σ} {s : Session σ} (h : s.InUse send) :
    s.client.auth.Keyed := by
  induction h with
  | start => exact fun hheld => (hheld rfl).elim
  | limited _ _ ih | outside _ _ ih | collected _ ih => exact ih
  | @fetched s now series _ ih =>
      cases hurl : s.client.listingUrl series with
      | error e => rwa [(fetchExchanges_of_unusable send now series s e hurl).2]
      | ok endpoint => exact (fetchExchanges_derivation send now series endpoint s hurl).keyed ih

/-- The session whose script has the renewals of the chosen pages put in, each just before the
answer to its page. -/
def withRenewals (chosen : ℕ → Option Renewal) (now : Int) (series : String)
    (s : Session Script) : Session Script :=
  { s with link :=
      ⟨interrupt chosen (s.fetchExchanges Script.send now series) s.link.answers, s.link.sent⟩ }

def loginRequest {σ : Type} (s : Session σ) : Request :=
  s.client.auth.loginRequest (s.client.auth.apiKey.getD "")

/-- Two fetches, the second one with renewals put in: what is found and which answers are left is
the same, and the requests differ by the renewals only. -/
structure InterruptionSpec (chosen : ℕ → Option Renewal) (now : Int) (series : String)
    (s s' : Session Script) : Prop where
  found : (s'.fetch Script.send now series).1 = (s.fetch Script.send now series).1
  left : (s'.fetch Script.send now series).2.link.answers =
    (s.fetch Script.send now series).2.link.answers
  exchanges : s'.fetchExchanges Script.send now series =
    interruptedExchanges chosen s.loginRequest none (s.fetchExchanges Script.send now series)
  sent : (s.fetch Script.send now series).2.link.sent =
    s.link.sent ++ (s.fetchExchanges Script.send now series).map Exchange.request
  sent' : (s'.fetch Script.send now series).2.link.sent =
    s.link.sent ++ (s'.fetchExchanges Script.send now series).map Exchange.request

/-- A client to whom pages are refused for the token, each just before it would have been answered
otherwise, gets what it would have got. -/
theorem fetch_interruptionSpec (s : Session Script) (hs : s.InUse Script.send) (now : Int)
    (series : String) (chosen : ℕ → Option Renewal)
    (hfirst : ∀ n, chosen n ≠ none →
      ∀ e ∈ (sincePage n (s.fetchExchanges Script.send now series)).head?, ¬ e.Refused) :
    InterruptionSpec chosen now series s (s.withRenewals chosen now series) := by
  have hsent (s : Session Script) : (s.fetch Script.send now series).2.link.sent =
      s.link.sent ++ (s.fetchExchanges Script.send now series).map Exchange.request :=
    Conversation.sent_eq (fetch_recorded Script.send now series s).2.link.2
  suffices h : (s.withRenewals chosen now series).fetchExchanges Script.send now series =
        interruptedExchanges chosen s.loginRequest none
          (s.fetchExchanges Script.send now series) ∧
      ((s.withRenewals chosen now series).fetch Script.send now series).1 =
        (s.fetch Script.send now series).1 ∧
      ((s.withRenewals chosen now series).fetch Script.send now series).2.link.answers =
        (s.fetch Script.send now series).2.link.answers from
    ⟨h.2.1, h.2.2, h.1, hsent s, hsent _⟩
  cases hurl : s.client.listingUrl series with
  | error e =>
      -- Nothing is sent, so there is nothing to put in.
      have hsame : s.withRenewals chosen now series = s := by
        rw [withRenewals, (fetchExchanges_of_unusable Script.send now series s e hurl).1]
        rfl
      rw [hsame, (fetchExchanges_of_unusable Script.send now series s e hurl).1]
      exact ⟨rfl, rfl, rfl⟩
  | ok endpoint =>
      have hwalk := fetchExchanges_derivation Script.send now series endpoint s hurl
      have hconversation := (fetch_recorded Script.send now series s).2.link.2
      have hlogin : s.client.auth.LogsInBy s.loginRequest := by
        intro key hkey
        simp [loginRequest, hkey]
      obtain ⟨auth', hshifted⟩ := hwalk.shift (.same s.client.auth) hs.keyed hlogin
        fun n e he hpage hchosen => hwalk.not_refused (hfirst n hchosen) e he hpage
      obtain ⟨rest, hrest, hleft⟩ := hconversation.interrupted chosen s.loginRequest
        hwalk.replied none s.link.sent
      obtain ⟨log, hfetch⟩ := fetch_execution (s := s.withRenewals chosen now series) hurl hshifted
        hrest
      refine ⟨?_, by rw [hfetch], ?_⟩
      · exact fetchExchanges_execution (s := s.withRenewals chosen now series) hurl hshifted hrest
          fun e he => (hshifted.proper e he).1
      · rw [hfetch, ← hleft]
        rfl

/-- The second of two pages is refused once before it is answered. -/
theorem fetch_interruptionSpec_secondPage :
    let login (token : String) : Reply :=
      ⟨200, "\x7b\"status\":\"success\",\"data\":\x7b\"token\":\"" ++ token ++ "\"\x7d\x7d"⟩
    let page (entry next : String) : Answer :=
      .reply ⟨200, "\x7b\"data\":\x7b\"episodes\":[\x7b" ++ entry ++
        "\x7d]\x7d,\"links\":\x7b\"next\":" ++ next ++ "\x7d\x7d"⟩
    let first := page "\"name\":\"Pilot\"" "1"
    let second := page "\"number\":2" "null"
    let s := Session.start (some "key") defaultBaseUrl 10
      (⟨[.reply (login "first"), first, second, first], []⟩ : Script)
    let s' := Session.start (some "key") defaultBaseUrl 10
      (⟨[.reply (login "first"), first, .reply ⟨401, "gone"⟩, .reply (login "second"), second,
        first], []⟩ : Script)
    ∃ chosen, s.withRenewals chosen 0 "42" = s' ∧ InterruptionSpec chosen 0 "42" s s' := by
  intro login page first second s s'
  have hissues : (login "second").Issues "second" :=
    ((Authenticator.accept_eq_ok_iff 0 _ ⟨"second", 86400⟩).mp (by cbv)).1
  let renewal : Renewal := ⟨"gone", login "second", "second", hissues⟩
  let chosen : ℕ → Option Renewal := fun n => if n = 1 then some renewal else none
  have hrenewals : s.withRenewals chosen 0 "42" = s' := by cbv
  refine ⟨chosen, hrenewals, ?_⟩
  rw [← hrenewals]
  refine fetch_interruptionSpec s (.start _ _ _ _) 0 "42" chosen ?_
  intro n hn e he
  obtain rfl : n = 1 := by
    by_contra hne
    exact hn (if_neg hne)
  have hanswered : (sincePage 1 (s.fetchExchanges Script.send 0 "42")).head?.map
      Exchange.outcome = some (second.outcome "") := by cbv
  rw [Option.mem_def.mp he] at hanswered
  rintro ⟨-, reply, hreply, hstatus⟩
  simp [hreply, second, page, Answer.outcome] at hanswered
  simp [hanswered] at hstatus

end Session

end EpisodeGuide
