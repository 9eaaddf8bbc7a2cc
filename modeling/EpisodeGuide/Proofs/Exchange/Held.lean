import EpisodeGuide.Client.Fetch
import EpisodeGuide.Proofs.History

/-! # The token that a history of exchanges leaves

A history lists the exchanges with the provider in their order. Read from its end it names the
token that is held: the last accepted login issued it, unless a page was refused since. -/

namespace EpisodeGuide

open Http Provider

/-- A reply that accepts a login and carries a token: success is reported, and the token is a
text that is not empty. -/
def Http.Reply.Issues (reply : Reply) (value : String) : Prop :=
  reply.status = 200 ∧ value ≠ "" ∧
    ∃ payload, LoginReply.ofText? reply.body = some payload ∧
      payload.status = some "success" ∧ payload.token = some value

theorem filter_nonempty_eq_some_iff (token : Option String) (value : String) :
    token.filter (fun t => !t.isEmpty) = some value ↔ token = some value ∧ value ≠ "" := by
  simp [Option.filter_eq_some_iff]

theorem Authenticator.accept_eq_ok_iff (now : Int) (reply : Reply) (t : Token) :
    Authenticator.accept now reply = .ok t ↔
      reply.Issues t.value ∧ t.expiresAt = now + tokenLifetime := by
  constructor
  · intro h
    unfold Authenticator.accept at h
    split at h
    · cases h
    · next hstatus =>
        split at h
        · cases h
        · next payload hbody =>
            split at h
            · cases h
            · next hsuccess =>
                split at h
                · cases h
                · next value hfilter =>
                    obtain rfl := Except.ok.inj h
                    obtain ⟨htoken, hne⟩ := (filter_nonempty_eq_some_iff _ _).mp hfilter
                    exact ⟨⟨not_not.mp hstatus, hne, payload, hbody, not_not.mp hsuccess, htoken⟩,
                      rfl⟩
  · rintro ⟨⟨hstatus, hne, payload, hbody, hsuccess, htoken⟩, hexpires⟩
    have hfilter := (filter_nonempty_eq_some_iff _ _).mpr ⟨htoken, hne⟩
    simp [Authenticator.accept, hstatus, hbody, hsuccess, hfilter, ← hexpires]

/-- A request, the second at which it was sent, and what came of it. -/
structure Exchange where
  time : Int
  request : Request
  outcome : Except TransportError Reply

namespace Exchange

/-- A login that was accepted with a token. -/
def Issues (e : Exchange) (t : Token) : Prop :=
  e.request.method = .post ∧
    ∃ reply, e.outcome = .ok reply ∧ reply.Issues t.value ∧ t.expiresAt = e.time + tokenLifetime

theorem Issues.value_ne {e : Exchange} {t : Token} (h : e.Issues t) : t.value ≠ "" := by
  obtain ⟨-, reply, -, hreply, -⟩ := h
  exact hreply.2.1

theorem Issues.expiresAt_eq {e : Exchange} {t : Token} (h : e.Issues t) :
    t.expiresAt = e.time + 86400 := by
  obtain ⟨-, reply, -, -, hexpires⟩ := h
  exact hexpires

def Accepted (e : Exchange) : Prop :=
  ∃ t, e.Issues t

/-- A page that was refused for the token. -/
def Refused (e : Exchange) : Prop :=
  e.request.method = .get ∧ ∃ reply, e.outcome = .ok reply ∧ reply.status = 401

/-- The token that is held after an exchange. -/
def keep (held : Option Token) (e : Exchange) : Option Token :=
  match e.request.method, e.outcome with
  | .post, .ok reply => (Authenticator.accept e.time reply).toOption.or held
  | .get, .ok reply => if reply.status = 401 then none else held
  | _, .error _ => held

theorem keep_of_issues {e : Exchange} {t : Token} (h : e.Issues t) (held : Option Token) :
    e.keep held = some t := by
  obtain ⟨hmethod, reply, houtcome, hissues⟩ := h
  have haccept := (Authenticator.accept_eq_ok_iff e.time reply t).mpr hissues
  simp [keep, hmethod, houtcome, haccept, Except.toOption]

theorem keep_of_refused {e : Exchange} (h : e.Refused) (held : Option Token) :
    e.keep held = none := by
  obtain ⟨hmethod, reply, houtcome, hstatus⟩ := h
  simp [keep, hmethod, houtcome, hstatus]

theorem keep_of_quiet {e : Exchange} (ha : ¬ e.Accepted) (hr : ¬ e.Refused)
    (held : Option Token) : e.keep held = held := by
  obtain ⟨time, request, outcome⟩ := e
  cases outcome with
  | error fault => cases hm : request.method <;> simp [keep, hm]
  | ok reply =>
      cases hm : request.method with
      | get =>
          have hstatus : reply.status ≠ 401 := fun h => hr ⟨hm, reply, rfl, h⟩
          simp [keep, hm, hstatus]
      | post =>
          cases haccept : Authenticator.accept time reply with
          | error fault => simp [keep, hm, haccept, Except.toOption]
          | ok t =>
              have hissues := (Authenticator.accept_eq_ok_iff time reply t).mp haccept
              exact (ha ⟨t, hm, reply, rfl, hissues⟩).elim

end Exchange

/-! ### Histories -/

/-- The token that is held after a history, from the one before it. -/
def heldAfter (held : Option Token) (es : List Exchange) : Option Token :=
  es.foldl Exchange.keep held

/-- Nothing in the history issues a token or takes one away. -/
def Quiet (es : List Exchange) : Prop :=
  ∀ e ∈ es, ¬ e.Accepted ∧ ¬ e.Refused

@[simp] theorem heldAfter_nil (held : Option Token) : heldAfter held [] = held := rfl

@[simp] theorem heldAfter_cons (held : Option Token) (e : Exchange) (es : List Exchange) :
    heldAfter held (e :: es) = heldAfter (e.keep held) es := rfl

@[simp] theorem heldAfter_append (held : Option Token) (xs ys : List Exchange) :
    heldAfter held (xs ++ ys) = heldAfter (heldAfter held xs) ys :=
  List.foldl_append

theorem heldAfter_of_quiet {es : List Exchange} (h : Quiet es) (held : Option Token) :
    heldAfter held es = held :=
  History.foldl_of_leaves (fun _ he held => Exchange.keep_of_quiet he.1 he.2 held) h held

/-- A token is held after a history exactly when the last exchange that says anything about
tokens issued it, or none says anything and it was held before. -/
theorem heldAfter_eq_some_iff (held : Option Token) (es : List Exchange) (t : Token) :
    heldAfter held es = some t ↔
      (held = some t ∧ Quiet es) ∨
        ∃ before login after, es = before ++ login :: after ∧ login.Issues t ∧ Quiet after := by
  have hsets : ∀ e u, Exchange.Issues e u → ∀ held, Exchange.keep held e = some u :=
    fun _ _ h held => Exchange.keep_of_issues h held
  have hleaves : ∀ e, ¬ Exchange.Accepted e ∧ ¬ Exchange.Refused e →
      ∀ held, Exchange.keep held e = held :=
    fun _ h held => Exchange.keep_of_quiet h.1 h.2 held
  refine History.foldl_eq_some_iff hsets hleaves ?_ held es t
  intro e
  by_cases ha : e.Accepted
  · exact .inl ha
  · by_cases hr : e.Refused
    · exact .inr (.inr fun held => Exchange.keep_of_refused hr held)
    · exact .inr (.inl ⟨ha, hr⟩)

/-! ### Order of requests -/

/-- A request as it may follow when a token is held: a page is asked for with the token, which
must be valid, and a login is sent only when no valid token is held. -/
def Exchange.Fits (held : Option Token) (e : Exchange) : Prop :=
  match e.request.method with
  | .get => ∃ t, held = some t ∧ e.time < t.expiresAt ∧ e.request.bearer = some t.value
  | .post => ∀ t, held = some t → t.expiresAt ≤ e.time

/-- Every request of the history fits the token that is held when it is sent. -/
def Orderly (held : Option Token) (es : List Exchange) : Prop :=
  History.Along Exchange.keep Exchange.Fits held es

theorem orderly_append (held : Option Token) (xs ys : List Exchange) :
    Orderly held (xs ++ ys) ↔ Orderly held xs ∧ Orderly (heldAfter held xs) ys :=
  History.along_append held xs ys

theorem Orderly.fits {held : Option Token} {before after : List Exchange} {e : Exchange}
    (h : Orderly held (before ++ e :: after)) : e.Fits (heldAfter held before) :=
  History.Along.fits h

end EpisodeGuide
