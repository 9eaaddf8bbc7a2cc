import EpisodeGuide.Proofs.Exchange.Recording
import EpisodeGuide.Proofs.Json.Grammar
import EpisodeGuide.Proofs.Json.Members
import EpisodeGuide.Proofs.Session.Order
import EpisodeGuide.Proofs.Text.Blank

/-! # Logins that are accepted

A login is accepted by a reply with status 200 whose body reports success and carries a token that
is not empty. Every other outcome is a fault of its own kind, which is logged and leaves the token
that was held. -/

namespace EpisodeGuide

open Http Json Provider

/-! ### Bodies of logins -/

namespace Provider.LoginReply

/-- The record within a login that may hold the token. -/
def HoldsToken (d : Document) (token : Option String) : Prop :=
  ∃ slot, IsRecord ["token"] d [slot] ∧ Optionally IsQuoted slot token

/-- What a document reports as a reply to a login: a status, a token and a reason, each of which may
be missing or null. -/
inductive Reports : Document → LoginReply → Prop where
  | record {d first second third status token reason} :
      IsRecord ["status", "data", "message"] d [first, second, third] →
      Optionally IsQuoted first status → Optionally HoldsToken second token →
      Optionally IsQuoted third reason → Reports d ⟨status, token.join, reason⟩

theorem readText?_iff {slot : Option Document} {text : Option String} :
    optional? Document.readText? slot = some text ↔ Optionally IsQuoted slot text :=
  optional?_eq_some_iff (fun _ _ => readText?_eq_some_iff) fun _ h => by cases h

theorem readToken?_eq_some_iff {d : Document} {token : Option String} :
    readToken? d = some token ↔ HoldsToken d token := by
  constructor
  · intro h
    unfold readToken? at h
    split at h
    · next slot hfields =>
      exact ⟨slot, (fields?_eq_some_iff (by decide)).mp hfields, readText?_iff.mp h⟩
    · cases h
  · rintro ⟨slot, hrecord, hholds⟩
    rw [readToken?, (fields?_eq_some_iff (by decide)).mpr hrecord]
    exact readText?_iff.mpr hholds

theorem not_holdsToken_null (token : Option String) : ¬ HoldsToken .null token := by
  rintro ⟨slot, ⟨⟩, -⟩

theorem ofDocument?_eq_some_iff {d : Document} {reply : LoginReply} :
    ofDocument? d = some reply ↔ Reports d reply := by
  have htoken : ∀ d token, readToken? d = some token ↔ HoldsToken d token :=
    fun _ _ => readToken?_eq_some_iff
  have hdata {slot : Option Document} {token : Option (Option String)} :
      optional? readToken? slot = some token ↔ Optionally HoldsToken slot token :=
    optional?_eq_some_iff htoken not_holdsToken_null
  constructor
  · intro h
    unfold ofDocument? at h
    split at h
    · next first second third hfields =>
      simp only [Option.bind_eq_bind, Option.bind_eq_some_iff, Option.pure_def,
        Option.some.injEq] at h
      obtain ⟨status, hstatus, token, htoken, reason, hreason, rfl⟩ := h
      exact .record ((fields?_eq_some_iff (by decide)).mp hfields) (readText?_iff.mp hstatus)
        (hdata.mp htoken) (readText?_iff.mp hreason)
    · cases h
  · rintro ⟨hrecord, hstatus, htoken, hreason⟩
    rw [ofDocument?, (fields?_eq_some_iff (by decide)).mpr hrecord]
    simp only [readText?_iff.mpr hstatus, hdata.mpr htoken, readText?_iff.mpr hreason]
    rfl

/-- A body is a reply to a login exactly if it spells a document that reports it. -/
theorem ofText?_eq_some_iff {body : String} {reply : LoginReply} :
    ofText? body = some reply ↔ ∃ d, IsText body.toList d ∧ Reports d reply := by
  simp only [ofText?, Document.ofText?, Option.bind_eq_some_iff, Document.ofChars?_iff,
    ofDocument?_eq_some_iff]

end Provider.LoginReply

/-! ### Outcomes of logins -/

/-- An outcome of a login that is accepted with a token. -/
def Accepts (outcome : Except TransportError Reply) (value : String) : Prop :=
  ∃ reply, outcome = .ok reply ∧ reply.Issues value

/-- Why an outcome of a login is not accepted. -/
inductive LoginFault : Except TransportError Reply → LoginError → Prop where
  | transport (e) : LoginFault (.error e) (.transport e)
  | status {reply : Reply} : reply.status ≠ 200 → LoginFault (.ok reply) (.status reply.status)
  | unreadable {reply : Reply} : reply.status = 200 → LoginReply.ofText? reply.body = none →
      LoginFault (.ok reply) (.unreadable none)
  | rejected {reply : Reply} {payload} : reply.status = 200 →
      LoginReply.ofText? reply.body = some payload → payload.status ≠ some "success" →
      LoginFault (.ok reply) (.rejected (payload.message.getD "Unknown error"))
  | missingToken {reply : Reply} {payload} : reply.status = 200 →
      LoginReply.ofText? reply.body = some payload → payload.status = some "success" →
      (∀ value ∈ payload.token, value = "") → LoginFault (.ok reply) .missingToken

namespace Authenticator

variable {now : Int} {outcome : Except TransportError Reply} {t : Token} {e : LoginError}

theorem conclude_eq_ok_iff :
    conclude now outcome = .ok t ↔ Accepts outcome t.value ∧ t.expiresAt = now + 86400 := by
  cases outcome with
  | error fault => simp [conclude, Accepts]
  | ok reply => simpa [conclude, Accepts, tokenLifetime] using accept_eq_ok_iff now reply t

theorem loginFault_of_accept {reply : Reply} (h : accept now reply = .error e) :
    LoginFault (.ok reply) e := by
  unfold accept at h
  split at h
  · next hstatus =>
    obtain rfl := Except.error.inj h
    exact .status hstatus
  · next hstatus =>
    rw [not_not] at hstatus
    split at h
    · next hbody =>
      obtain rfl := Except.error.inj h
      exact .unreadable hstatus hbody
    · next payload hbody =>
      split at h
      · next hrejected =>
        obtain rfl := Except.error.inj h
        exact .rejected hstatus hbody hrejected
      · next hsuccess =>
        split at h
        · next hempty =>
          obtain rfl := Except.error.inj h
          refine .missingToken hstatus hbody (not_not.mp hsuccess) ?_
          simpa [Option.filter_eq_none_iff] using hempty
        · cases h

/-- An outcome that is not accepted has one fault, whatever the clock shows. -/
theorem conclude_eq_error_iff : conclude now outcome = .error e ↔ LoginFault outcome e := by
  constructor
  · intro h
    cases outcome with
    | error fault =>
        obtain rfl := Except.error.inj h
        exact .transport fault
    | ok reply => exact loginFault_of_accept h
  · intro h
    cases h with
    | transport => rfl
    | status hstatus => exact if_pos hstatus
    | unreadable hstatus hbody => simp [conclude, accept, hstatus, hbody]
    | rejected hstatus hbody hrejected => simp [conclude, accept, hstatus, hbody, hrejected]
    | @missingToken reply payload hstatus hbody hsuccess hempty =>
        have hfilter : payload.token.filter (fun t => !t.isEmpty) = none := by
          simpa [Option.filter_eq_none_iff] using hempty
        simp [conclude, accept, hstatus, hbody, hsuccess, hfilter]

end Authenticator

/-! ### Asking for a token -/

namespace Session

variable {σ : Type} {send : Transport σ} {now : Int} {s : Session σ} {key : String} {t : Token}

theorem tokenExchanges_of_held (h : s.client.auth.currentToken now = some t) :
    s.tokenExchanges send now = [] := by
  have hheld : s.recorded.client.auth.currentToken now = some t := h
  rw [tokenExchanges, getToken_of_held hheld]
  rfl

theorem tokenExchanges_of_no_key (h : s.client.auth.currentToken now = none)
    (hkey : s.client.auth.apiKey = none) : s.tokenExchanges send now = [] := by
  have hnone : s.recorded.client.auth.currentToken now = none := h
  have hmissing : s.recorded.client.auth.apiKey = none := hkey
  rw [tokenExchanges, getToken_of_no_key hnone hmissing]
  rfl

theorem tokenExchanges_of_key (h : s.client.auth.currentToken now = none)
    (hkey : s.client.auth.apiKey = some key) : s.tokenExchanges send now =
      [⟨now, s.client.auth.loginRequest key,
        (send (s.client.auth.loginRequest key) s.link).1⟩] := by
  have hnone : s.recorded.currentToken now = none := h
  have hrecorded : s.recorded.client.auth.apiKey = some key := hkey
  rw [tokenExchanges, getToken_link hnone, Authenticator.login_of_key hrecorded]
  rfl

/-- What one login comes to: it is sent once, its outcome alone decides whether a token is issued,
and a fault is logged and changes nothing. -/
structure LoginSpec (send : Transport σ) (now : Int) (request : Request) (s : Session σ) :
    Prop where
  sent : s.tokenExchanges send now = [⟨now, request, (send request s.link).1⟩]
  issued : ∀ t, (s.getToken send now).1 = some t ↔
    Accepts (send request s.link).1 t.value ∧ t.expiresAt = now + 86400
  stored : ∀ t, (s.getToken send now).1 = some t →
    (s.getToken send now).2 = ((s.exchanged send request).setToken (some t)).note .authenticated
  failed : (s.getToken send now).1 = none → ∃ e, LoginFault (send request s.link).1 e ∧
    (s.getToken send now).2 = (s.exchanged send request).note (.loginFailed e)

theorem getToken_loginSpec (h : s.client.auth.currentToken now = none)
    (hkey : s.client.auth.apiKey = some key) :
    LoginSpec send now (s.client.auth.loginRequest key) s := by
  cases hout : Authenticator.conclude now (send (s.client.auth.loginRequest key) s.link).1 with
  | ok t =>
      have hget := getToken_of_accepted h hkey hout
      refine ⟨tokenExchanges_of_key h hkey, fun u => ?_, fun u hu => ?_, fun hnone => ?_⟩
      · rw [hget, ← Authenticator.conclude_eq_ok_iff, hout, Option.some.injEq, Except.ok.injEq]
      · obtain rfl : t = u := by simpa [hget] using hu
        rw [hget]
      · simp [hget] at hnone
  | error e =>
      have hfault := Authenticator.conclude_eq_error_iff.mp hout
      have hget := getToken_of_failed h hkey hout
      refine ⟨tokenExchanges_of_key h hkey, fun u => ?_, fun u hu => ?_, fun _ => ⟨e, hfault, ?_⟩⟩
      · rw [hget, ← Authenticator.conclude_eq_ok_iff, hout]
        simp
      · simp [hget] at hu
      · rw [hget]

/-- Who gets no token keeps the client as it was, and one event says that something went wrong. -/
theorem getToken_alarm (h : (s.getToken send now).1 = none) :
    (s.getToken send now).2.client = s.client ∧
      ∃ event, (s.getToken send now).2.log = s.log ++ [event] ∧
        (event.level = .warn ∨ event.level = .error) := by
  cases hheld : s.client.auth.currentToken now with
  | some t => simp [getToken_of_held hheld] at h
  | none =>
      cases hkey : s.client.auth.apiKey with
      | none =>
          rw [getToken_of_no_key hheld hkey]
          exact ⟨rfl, .keyMissing, rfl, .inl rfl⟩
      | some key =>
          obtain ⟨e, -, hfailed⟩ := (getToken_loginSpec hheld hkey).failed h
          rw [hfailed]
          exact ⟨rfl, .loginFailed e, rfl, .inr rfl⟩

/-- The login with a key below a base URL: one post, without credential and query, of the key as it
is. -/
def loginPost (baseUrl key : String) : Request :=
  ⟨.post, Text.dropTrailing '/' baseUrl ++ "/login", none, [],
    some (.object [("apikey", .text key)])⟩

/-- What asking for a token comes to, from the configured key and base URL. -/
structure AcceptanceSpec (send : Transport σ) (now : Int) (apiKey : Option String)
    (baseUrl : String) (s : Session σ) : Prop where
  held : ∀ t, s.client.auth.token = some t → now < t.expiresAt →
    s.tokenExchanges send now = [] ∧ s.getToken send now = (some t, s)
  keyless : (∀ t, s.client.auth.token = some t → t.expiresAt ≤ now) →
    (∀ key ∈ apiKey, Text.isBlank key = true) →
      s.tokenExchanges send now = [] ∧ s.getToken send now = (none, s.note .keyMissing)
  asked : (∀ t, s.client.auth.token = some t → t.expiresAt ≤ now) →
    ∀ key ∈ apiKey, Text.isBlank key = false → LoginSpec send now (loginPost baseUrl key) s
  alarmed : (s.getToken send now).1 = none →
    (s.getToken send now).2.client = s.client ∧
      ∃ event, (s.getToken send now).2.log = s.log ++ [event] ∧
        (event.level = .warn ∨ event.level = .error)
  decoded : ∀ body reply, LoginReply.ofText? body = some reply ↔
    ∃ d, IsText body.toList d ∧ LoginReply.Reports d reply

/-- Every client, whatever token it holds and whatever is answered, gets its tokens like this. -/
theorem getToken_acceptanceSpec (send : Transport σ) (now : Int) (apiKey : Option String)
    (baseUrl : String) (maxPages : UInt32) (token : Option Token) (link : σ) (log : List Event) :
    AcceptanceSpec send now apiKey baseUrl
      ⟨((Client.new apiKey baseUrl).withMaxPages maxPages).withToken token, link, log⟩ where
  held t htoken hvalid := by
    have hheld := (Authenticator.currentToken_eq_some_iff now _ t).mpr ⟨htoken, hvalid⟩
    exact ⟨tokenExchanges_of_held hheld, getToken_of_held hheld⟩
  keyless hexpired hblank := by
    have hnone := (Authenticator.currentToken_eq_none_iff now _).mpr hexpired
    have hkey := Text.nonBlank?_eq_none_iff.mpr hblank
    exact ⟨tokenExchanges_of_no_key hnone hkey, getToken_of_no_key hnone hkey⟩
  asked hexpired key hmem hword := by
    have hnone := (Authenticator.currentToken_eq_none_iff now _).mpr hexpired
    have hkey := Text.nonBlank?_eq_some_iff.mpr ⟨hmem, hword⟩
    exact getToken_loginSpec hnone hkey
  alarmed := getToken_alarm
  decoded _ _ := LoginReply.ofText?_eq_some_iff

end Session

end EpisodeGuide
