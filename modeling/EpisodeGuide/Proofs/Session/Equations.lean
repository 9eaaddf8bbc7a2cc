import EpisodeGuide.Client.Fetch
import Mathlib.Data.List.Basic

/-! # What one reply does to a page, and one page to a walk

Equations for the steps of a fetch. A login comes to what its reply says, a page that was rejected
is settled by asking for it again, and a walk goes on behind a page that has a next one. -/

namespace EpisodeGuide

open Http Provider

/-! ### Logins -/

namespace Authenticator

/-- What a login comes to when its request came to an outcome. -/
def conclude (now : Int) : Except TransportError Reply → Except LoginError Token
  | .error e => .error (.transport e)
  | .ok reply => accept now reply

theorem conclude_ne_missingApiKey (now : Int) (outcome : Except TransportError Reply) :
    conclude now outcome ≠ .error .missingApiKey := by
  cases outcome with
  | error fault => simp [conclude]
  | ok reply =>
      rw [conclude]
      unfold accept
      repeat' split
      all_goals simp

variable {σ : Type} {send : Transport σ} {now : Int} {a : Authenticator} {link : σ}

theorem login_of_no_key (h : a.apiKey = none) :
    a.login send now link = (.error .missingApiKey, link) := by
  rw [login, h]

theorem login_of_key {key : String} (h : a.apiKey = some key) :
    a.login send now link =
      (conclude now (send (a.loginRequest key) link).1, (send (a.loginRequest key) link).2) := by
  rcases hsend : send (a.loginRequest key) link with ⟨_ | _, link'⟩ <;>
    simp [login, h, hsend, conclude]

end Authenticator

namespace Session

variable {σ : Type} {send : Transport σ} {now : Int} {series endpoint : String} {room page : ℕ}
  {s m : Session σ}

/-! ### Tokens -/

def exchanged (send : Transport σ) (request : Request) (s : Session σ) : Session σ :=
  { s with link := (send request s.link).2 }

section Tokens

variable {key : String} {t : Token} {e : LoginError}

theorem getToken_of_held (h : s.client.auth.currentToken now = some t) :
    s.getToken send now = (some t, s) := by
  simp [getToken, currentToken, h]

theorem getToken_of_no_key (h : s.client.auth.currentToken now = none)
    (hkey : s.client.auth.apiKey = none) : s.getToken send now = (none, s.note .keyMissing) := by
  simp [getToken, currentToken, h, Authenticator.login_of_no_key hkey]

theorem getToken_of_accepted (h : s.client.auth.currentToken now = none)
    (hkey : s.client.auth.apiKey = some key)
    (ht : Authenticator.conclude now (send (s.client.auth.loginRequest key) s.link).1 = .ok t) :
    s.getToken send now = (some t,
      ((s.exchanged send (s.client.auth.loginRequest key)).setToken (some t)).note
        .authenticated) := by
  simp [getToken, currentToken, h, Authenticator.login_of_key hkey, ht, exchanged]

theorem getToken_of_failed (h : s.client.auth.currentToken now = none)
    (hkey : s.client.auth.apiKey = some key)
    (he : Authenticator.conclude now (send (s.client.auth.loginRequest key) s.link).1 =
      .error e) : s.getToken send now =
      (none, (s.exchanged send (s.client.auth.loginRequest key)).note (.loginFailed e)) := by
  cases e with
  | missingApiKey => exact (Authenticator.conclude_ne_missingApiKey now _ he).elim
  | _ => simp [getToken, currentToken, h, Authenticator.login_of_key hkey, he, exchanged]

end Tokens

/-! ### Links -/

theorem getToken_link (h : s.currentToken now = none) :
    (s.getToken send now).2.link = (s.client.auth.login send now s.link).2 := by
  rcases hlogin : s.client.auth.login send now s.link with ⟨(_ | _ | _ | _ | _ | _) | _, link⟩ <;>
    simp [getToken, h, hlogin, note, setToken]

theorem getPage_link_of_none (h : s.getToken send now = (none, m)) :
    (s.getPage send now endpoint page).2.link = m.link := by
  simp [getPage, h]

theorem getPage_link_of_some {token : Token} (h : s.getToken send now = (some token, m)) :
    (s.getPage send now endpoint page).2.link =
      (send (pageRequest endpoint token page) m.link).2 := by
  rcases hsend : send (pageRequest endpoint token page) m.link with ⟨_ | _, link⟩ <;>
    simp [getPage, h, hsend]

/-! ### Pages -/

theorem requestPage_of_ne {result : Except PageError Page} {m : Session σ}
    (h : s.getPage send now endpoint page = (result, m)) (hr : result ≠ .error .unauthorized) :
    s.requestPage send now endpoint page = (result, m) := by
  simp only [requestPage, h]
  split
  · next heq => exact (hr (congrArg Prod.fst heq)).elim
  · rfl

/-- What asking again comes to: a token that is rejected once more is forgotten. -/
def settle : Except PageError Page × Session σ → Except PageError Page × Session σ
  | (.error .unauthorized, s) => (.error .unauthorized, s.invalidate)
  | retried => retried

theorem settle_link (x : Except PageError Page × Session σ) : (settle x).2.link = x.2.link := by
  unfold settle
  split <;> rfl

theorem requestPage_of_unauthorized
    (h : s.getPage send now endpoint page = (.error .unauthorized, m)) :
    s.requestPage send now endpoint page =
      settle ((m.note (.tokenRejected page)).invalidate.getPage send now endpoint page) := by
  simp only [requestPage, h]
  rfl

theorem requestPage_of_renewed {result : Except PageError Page} {m n : Session σ}
    (h : s.getPage send now endpoint page = (.error .unauthorized, m))
    (h' : (m.note (.tokenRejected page)).invalidate.getPage send now endpoint page = (result, n))
    (hr : result ≠ .error .unauthorized) : s.requestPage send now endpoint page = (result, n) := by
  rw [requestPage_of_unauthorized h, h', settle]
  rintro s ⟨⟩
  exact hr rfl

theorem requestPage_of_rejected {m n : Session σ}
    (h : s.getPage send now endpoint page = (.error .unauthorized, m))
    (h' : (m.note (.tokenRejected page)).invalidate.getPage send now endpoint page =
      (.error .unauthorized, n)) :
    s.requestPage send now endpoint page = (.error .unauthorized, n.invalidate) := by
  rw [requestPage_of_unauthorized h, h', settle]

/-! ### Walks -/

def pageEvent (series : String) (page : ℕ) : PageError → Event
  | .noToken => .tokenMissing series page
  | e => .pageFailed series page e

theorem walk_of_error {e : PageError}
    (h : s.requestPage send now endpoint page = (.error e, m)) :
    s.walk send now series endpoint (room + 1) page = ([], m.note (pageEvent series page e)) := by
  cases e <;> simp [walk, h, pageEvent]

theorem walk_of_last {body : Page} (h : s.requestPage send now endpoint page = (.ok body, m))
    (hend : body.usableEntries = [] ∨ body.hasNext = false) :
    s.walk send now series endpoint (room + 1) page = (body.episodes series, m) := by
  by_cases hempty : body.usableEntries = []
  · have hfound : body.episodes series = [] := by simp [Page.episodes, hempty]
    simp [walk, h, hfound]
  · have hfound : body.episodes series ≠ [] := by simpa [Page.episodes] using hempty
    simp [walk, h, hfound, hend.resolve_left hempty]

theorem walk_of_next {body : Page} (h : s.requestPage send now endpoint page = (.ok body, m))
    (hne : body.usableEntries ≠ []) (hnext : body.hasNext = true) :
    s.walk send now series endpoint (room + 1) page =
      (body.episodes series ++ (m.walk send now series endpoint room (page + 1)).1,
        (m.walk send now series endpoint room (page + 1)).2) := by
  have hfound : body.episodes series ≠ [] := by simpa [Page.episodes] using hne
  simp [walk, h, hfound, hnext]

end Session

end EpisodeGuide
