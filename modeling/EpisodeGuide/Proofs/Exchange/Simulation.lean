import EpisodeGuide.Proofs.Session.Equations

/-! # Sessions that go alike

Two clients over two links go alike if their logins do, and their requests for pages. Whole fetches
then have the same results and the same events, and leave clients and links that still correspond.
Nothing is said of a first link that does not stay sound. -/

namespace EpisodeGuide

open Http Provider

variable {σ τ : Type}

/-! ### What a link inherits -/

/-- A link that is so behind a request was so before it. -/
def Inherited (send : Transport σ) (P : σ → Prop) : Prop :=
  ∀ request l, P (send request l).2 → P l

namespace Inherited

variable {send : Transport σ} {P : σ → Prop} {s : Session σ}

theorem login (h : Inherited send P) (now : Int) (a : Authenticator) {l : σ}
    (hp : P (a.login send now l).2) : P l := by
  cases hkey : a.apiKey with
  | none => rwa [Authenticator.login_of_no_key hkey] at hp
  | some key =>
      rw [Authenticator.login_of_key hkey] at hp
      exact h _ l hp

theorem getToken (h : Inherited send P) (now : Int) (hp : P (s.getToken send now).2.link) :
    P s.link := by
  cases hheld : s.currentToken now with
  | some token => simpa [Session.getToken, hheld] using hp
  | none =>
      rw [Session.getToken_link hheld] at hp
      exact h.login now s.client.auth hp

theorem getPage_token (h : Inherited send P) (now : Int) {endpoint : String} {page : ℕ}
    (hp : P (s.getPage send now endpoint page).2.link) : P (s.getToken send now).2.link := by
  rcases htoken : s.getToken send now with ⟨_ | token, m⟩
  · rwa [Session.getPage_link_of_none htoken] at hp
  · rw [Session.getPage_link_of_some htoken] at hp
    exact h _ m.link hp

theorem getPage (h : Inherited send P) (now : Int) {endpoint : String} {page : ℕ}
    (hp : P (s.getPage send now endpoint page).2.link) : P s.link :=
  h.getToken now (h.getPage_token now hp)

theorem requestPage (h : Inherited send P) (now : Int) (endpoint : String) (page : ℕ)
    (hp : P (s.requestPage send now endpoint page).2.link) :
    P (s.getPage send now endpoint page).2.link := by
  rcases hfirst : s.getPage send now endpoint page with ⟨r, m⟩
  by_cases hr : r = .error .unauthorized
  · -- The page was asked for again, over the link that the first request left.
    subst hr
    rw [Session.requestPage_of_unauthorized hfirst, Session.settle_link] at hp
    exact h.getPage now (s := (m.note (.tokenRejected page)).invalidate) hp
  · rw [Session.requestPage_of_ne hfirst hr] at hp
    exact hp

theorem walk (h : Inherited send P) (now : Int) (series endpoint : String) (room page : ℕ)
    (hp : P (s.walk send now series endpoint room page).2.link) : P s.link := by
  induction room generalizing page s with
  | zero => exact hp
  | succ room ih =>
      refine h.getPage now (h.requestPage now endpoint page ?_)
      rcases hpage : s.requestPage send now endpoint page with ⟨e | body, m⟩
      · rw [Session.walk_of_error hpage] at hp
        exact hp
      · by_cases hend : body.usableEntries = [] ∨ body.hasNext = false
        · rw [Session.walk_of_last hpage hend] at hp
          exact hp
        · rw [not_or, Bool.not_eq_false] at hend
          rw [Session.walk_of_next hpage hend.1 hend.2] at hp
          exact ih (page + 1) hp

theorem fetch (h : Inherited send P) (now : Int) {series : String}
    (hp : P (s.fetch send now series).2.link) : P s.link := by
  cases hurl : s.client.listingUrl series with
  | error e => simpa [Session.fetch, hurl, Session.note] using hp
  | ok endpoint =>
      refine h.walk now series endpoint s.client.maxPages.toNat 0 ?_
      rcases hwalk : s.walk send now series endpoint s.client.maxPages.toNat 0 with ⟨episodes, m⟩
      by_cases hempty : episodes.isEmpty <;>
        simpa [Session.fetch, hurl, hwalk, hempty, Session.note] using hp

end Inherited

/-! ### Clients that correspond -/

def Client.withToken (token : Option Token) (c : Client) : Client :=
  { c with auth := { c.auth with token := token } }

/-- A correspondence of clients at work: each is a client and its link. -/
abbrev Correspondence (σ τ : Type) :=
  Client → σ → Client → τ → Prop

/-- Logins of two clients that fail alike, or are both accepted. -/
inductive LoginsAlike (Q : Correspondence σ τ) (c₁ c₂ : Client) :
    Except LoginError Token × σ → Except LoginError Token × τ → Prop where
  | failed {l₁ l₂} (e) : Q c₁ l₁ c₂ l₂ → LoginsAlike Q c₁ c₂ (.error e, l₁) (.error e, l₂)
  | accepted {l₁ l₂ t₁ t₂} : Q (c₁.withToken (some t₁)) l₁ (c₂.withToken (some t₂)) l₂ →
      LoginsAlike Q c₁ c₂ (.ok t₁, l₁) (.ok t₂, l₂)

theorem LoginsAlike.of_same {Q : Correspondence σ τ} {c₁ c₂ : Client} {l₁ : σ} {l₂ : τ}
    {o : Except LoginError Token} (h : Q c₁ l₁ c₂ l₂)
    (htoken : ∀ t, o = .ok t → Q (c₁.withToken (some t)) l₁ (c₂.withToken (some t)) l₂) :
    LoginsAlike Q c₁ c₂ (o, l₁) (o, l₂) := by
  cases o with
  | error e => exact .failed e h
  | ok t => exact .accepted (htoken t rfl)

/-- Over two transports, clients that correspond go on alike as long as the first link is sound:
their tokens are valid for the same time, their logins end alike, and a page of a listing is
answered alike when they ask for it with the tokens that they hold. -/
structure Simulation (send₁ : Transport σ) (send₂ : Transport τ) (Sound : σ → Prop)
    (Listing : String → Prop) (Q : Correspondence σ τ) : Prop where
  sound : Inherited send₁ Sound
  baseUrl : ∀ {c₁ l₁ c₂ l₂}, Q c₁ l₁ c₂ l₂ → c₁.baseUrl = c₂.baseUrl
  maxPages : ∀ {c₁ l₁ c₂ l₂}, Q c₁ l₁ c₂ l₂ → c₁.maxPages = c₂.maxPages
  listing : ∀ {c₁ l₁ c₂ l₂ series endpoint}, Q c₁ l₁ c₂ l₂ →
    c₁.listingUrl series = .ok endpoint → Listing endpoint
  valid : ∀ {c₁ l₁ c₂ l₂} now, Q c₁ l₁ c₂ l₂ →
    (c₁.auth.currentToken now).isSome = (c₂.auth.currentToken now).isSome
  forget : ∀ {c₁ l₁ c₂ l₂}, Q c₁ l₁ c₂ l₂ → Q (c₁.withToken none) l₁ (c₂.withToken none) l₂
  login : ∀ {c₁ l₁ c₂ l₂} now, Q c₁ l₁ c₂ l₂ → Sound (c₁.auth.login send₁ now l₁).2 →
    LoginsAlike Q c₁ c₂ (c₁.auth.login send₁ now l₁) (c₂.auth.login send₂ now l₂)
  page : ∀ {c₁ l₁ c₂ l₂ endpoint t₁ t₂} page, Q c₁ l₁ c₂ l₂ → Listing endpoint →
    c₁.auth.token = some t₁ → c₂.auth.token = some t₂ →
    Sound (send₁ (pageRequest endpoint t₁ page) l₁).2 →
    (send₁ (pageRequest endpoint t₁ page) l₁).1 = (send₂ (pageRequest endpoint t₂ page) l₂).1 ∧
      Q c₁ (send₁ (pageRequest endpoint t₁ page) l₁).2
        c₂ (send₂ (pageRequest endpoint t₂ page) l₂).2

namespace Session

/-- Sessions whose clients and links correspond, with the same events. -/
structure Corresponds (Q : Correspondence σ τ) (s₁ : Session σ) (s₂ : Session τ) : Prop where
  work : Q s₁.client s₁.link s₂.client s₂.link
  log : s₁.log = s₂.log

/-- The same result, with sessions that correspond. -/
def Alike {α : Type} (Q : Correspondence σ τ) (x : α × Session σ) (y : α × Session τ) : Prop :=
  x.1 = y.1 ∧ Corresponds Q x.2 y.2

/-- Both sessions lack a token, or both hold the one that is handed out. -/
inductive TokensAlike (Q : Correspondence σ τ) :
    Option Token × Session σ → Option Token × Session τ → Prop where
  | missing {s₁ s₂} : Corresponds Q s₁ s₂ → TokensAlike Q (none, s₁) (none, s₂)
  | held {s₁ s₂ t₁ t₂} : s₁.client.auth.token = some t₁ → s₂.client.auth.token = some t₂ →
      Corresponds Q s₁ s₂ → TokensAlike Q (some t₁, s₁) (some t₂, s₂)

variable {send₁ : Transport σ} {send₂ : Transport τ} {Sound : σ → Prop} {Listing : String → Prop}
  {Q : Correspondence σ τ} {s₁ : Session σ} {s₂ : Session τ} {endpoint : String}

theorem Corresponds.note (h : Corresponds Q s₁ s₂) (e : Event) :
    Corresponds Q (s₁.note e) (s₂.note e) :=
  ⟨h.work, congrArg (· ++ [e]) h.log⟩

end Session

namespace Simulation

open Session

variable {send₁ : Transport σ} {send₂ : Transport τ} {Sound : σ → Prop} {Listing : String → Prop}
  {Q : Correspondence σ τ} {s₁ : Session σ} {s₂ : Session τ} {endpoint : String}
  (S : Simulation send₁ send₂ Sound Listing Q)
include S

theorem invalidate (h : Corresponds Q s₁ s₂) : Corresponds Q s₁.invalidate s₂.invalidate :=
  ⟨S.forget h.work, h.log⟩

theorem getToken (now : Int) (h : Corresponds Q s₁ s₂)
    (hsound : Sound (s₁.getToken send₁ now).2.link) :
    TokensAlike Q (s₁.getToken send₁ now) (s₂.getToken send₂ now) := by
  have hvalid := S.valid now h.work
  cases h₁ : s₁.client.auth.currentToken now with
  | some t₁ =>
      obtain ⟨t₂, h₂⟩ : ∃ t₂, s₂.client.auth.currentToken now = some t₂ := by
        rwa [h₁, Option.isSome_some, eq_comm, Option.isSome_iff_exists] at hvalid
      simp only [Session.getToken, currentToken, h₁, h₂]
      exact .held (Option.filter_eq_some_iff.mp h₁).1 (Option.filter_eq_some_iff.mp h₂).1 h
  | none =>
      have h₂ : s₂.client.auth.currentToken now = none := by
        rwa [h₁, Option.isSome_none, eq_comm, Option.isSome_eq_false_iff, Option.isNone_iff_eq_none]
          at hvalid
      rw [getToken_link h₁] at hsound
      have halike := S.login now h.work hsound
      simp only [Session.getToken, currentToken, h₁, h₂]
      generalize s₁.client.auth.login send₁ now s₁.link = x at halike
      generalize s₂.client.auth.login send₂ now s₂.link = y at halike
      cases halike with
      | @failed l₁ l₂ e hq =>
          have hs : Corresponds Q { s₁ with link := l₁ } { s₂ with link := l₂ } := ⟨hq, h.log⟩
          rcases e with _ | _ | _ | _ | _ | _ <;> exact .missing (hs.note _)
      | @accepted l₁ l₂ t₁ t₂ hq =>
          have hs : Corresponds Q (({ s₁ with link := l₁ } : Session σ).setToken (some t₁))
              (({ s₂ with link := l₂ } : Session τ).setToken (some t₂)) := ⟨hq, h.log⟩
          exact .held rfl rfl (hs.note _)

theorem getPage (now : Int) (page : ℕ) (hendpoint : Listing endpoint) (h : Corresponds Q s₁ s₂)
    (hsound : Sound (s₁.getPage send₁ now endpoint page).2.link) :
    Alike Q (s₁.getPage send₁ now endpoint page) (s₂.getPage send₂ now endpoint page) := by
  have halike := S.getToken now h (S.sound.getPage_token now hsound)
  unfold Session.getPage at hsound ⊢
  generalize s₁.getToken send₁ now = x at halike hsound
  generalize s₂.getToken send₂ now = y at halike
  cases halike with
  | missing h => exact ⟨rfl, h⟩
  | @held m₁ m₂ t₁ t₂ h₁ h₂ h =>
      have hlink : Sound (send₁ (pageRequest endpoint t₁ page) m₁.link).2 := by
        rcases hsend : send₁ (pageRequest endpoint t₁ page) m₁.link with ⟨_ | _, l⟩ <;>
          simpa [hsend] using hsound
      obtain ⟨houtcome, hq⟩ := S.page page h.work hendpoint h₁ h₂ hlink
      dsimp only
      rcases k₁ : send₁ (pageRequest endpoint t₁ page) m₁.link with ⟨o₁, l₁⟩
      rcases k₂ : send₂ (pageRequest endpoint t₂ page) m₂.link with ⟨o₂, l₂⟩
      obtain rfl : o₁ = o₂ := by simpa [k₁, k₂] using houtcome
      rw [k₁, k₂] at hq
      cases o₁ <;> exact ⟨rfl, hq, h.log⟩

theorem settle {x : Except PageError Page × Session σ} {y : Except PageError Page × Session τ}
    (h : Alike Q x y) : Alike Q (settle x) (settle y) := by
  obtain ⟨r, m₁⟩ := x
  obtain ⟨_, m₂⟩ := y
  obtain ⟨rfl, hm⟩ := h
  rcases r with (_ | _ | _ | _ | _ | _) | body
  case error.unauthorized => exact ⟨rfl, S.invalidate hm⟩
  all_goals exact ⟨rfl, hm⟩

theorem requestPage (now : Int) (page : ℕ) (hendpoint : Listing endpoint)
    (h : Corresponds Q s₁ s₂) (hsound : Sound (s₁.requestPage send₁ now endpoint page).2.link) :
    Alike Q (s₁.requestPage send₁ now endpoint page) (s₂.requestPage send₂ now endpoint page) := by
  have hfirst := S.getPage now page hendpoint h (S.sound.requestPage now endpoint page hsound)
  rcases h₁ : s₁.getPage send₁ now endpoint page with ⟨r, m₁⟩
  rcases h₂ : s₂.getPage send₂ now endpoint page with ⟨r₂, m₂⟩
  rw [h₁, h₂] at hfirst
  obtain ⟨rfl, hm⟩ : r = r₂ ∧ Corresponds Q m₁ m₂ := hfirst
  by_cases hr : r = .error .unauthorized
  · subst hr
    rw [requestPage_of_unauthorized h₁] at hsound ⊢
    rw [requestPage_of_unauthorized h₂]
    rw [settle_link] at hsound
    exact S.settle (S.getPage now page hendpoint (S.invalidate (hm.note _)) hsound)
  · rw [requestPage_of_ne h₁ hr, requestPage_of_ne h₂ hr]
    exact ⟨rfl, hm⟩

theorem walk (now : Int) (series : String) (room page : ℕ) (hendpoint : Listing endpoint)
    (h : Corresponds Q s₁ s₂)
    (hsound : Sound (s₁.walk send₁ now series endpoint room page).2.link) :
    Alike Q (s₁.walk send₁ now series endpoint room page)
      (s₂.walk send₂ now series endpoint room page) := by
  induction room generalizing page s₁ s₂ with
  | zero =>
      simp only [Session.walk, S.maxPages h.work]
      exact ⟨rfl, h.note _⟩
  | succ room ih =>
      have hrequest := S.requestPage now page hendpoint h
      rcases h₁ : s₁.requestPage send₁ now endpoint page with ⟨r, m₁⟩
      rcases h₂ : s₂.requestPage send₂ now endpoint page with ⟨r₂, m₂⟩
      rw [h₁, h₂] at hrequest
      cases r with
      | error e =>
          rw [walk_of_error h₁] at hsound ⊢
          obtain ⟨rfl, hm⟩ := hrequest hsound
          rw [walk_of_error h₂]
          exact ⟨rfl, hm.note _⟩
      | ok body =>
          by_cases hend : body.usableEntries = [] ∨ body.hasNext = false
          · rw [walk_of_last h₁ hend] at hsound ⊢
            obtain ⟨rfl, hm⟩ := hrequest hsound
            rw [walk_of_last h₂ hend]
            exact ⟨rfl, hm⟩
          · rw [not_or, Bool.not_eq_false] at hend
            rw [walk_of_next h₁ hend.1 hend.2] at hsound ⊢
            obtain ⟨rfl, hm⟩ := hrequest (S.sound.walk now series endpoint room (page + 1) hsound)
            rw [walk_of_next h₂ hend.1 hend.2]
            obtain ⟨hrest, hs⟩ := ih (page + 1) hm hsound
            exact ⟨congrArg (body.episodes series ++ ·) hrest, hs⟩

/-- Fetches of sessions that correspond. -/
theorem fetch (now : Int) (series : String) (h : Corresponds Q s₁ s₂)
    (hsound : Sound (s₁.fetch send₁ now series).2.link) :
    Alike Q (s₁.fetch send₁ now series) (s₂.fetch send₂ now series) := by
  have hurls : s₂.client.listingUrl series = s₁.client.listingUrl series := by
    rw [Client.listingUrl, Client.listingUrl, S.baseUrl h.work]
  cases hurl : s₁.client.listingUrl series with
  | error e =>
      simp only [Session.fetch, hurls, hurl]
      exact ⟨rfl, h.note _⟩
  | ok endpoint =>
      have hwalk := S.walk now series s₁.client.maxPages.toNat 0 (S.listing h.work hurl) h
      simp only [Session.fetch, hurls, hurl, ← S.maxPages h.work] at hsound ⊢
      have hsound' :
          Sound (s₁.walk send₁ now series endpoint s₁.client.maxPages.toNat 0).2.link := by
        split at hsound <;> exact hsound
      obtain ⟨hfound, hs⟩ := hwalk hsound'
      rw [← hfound]
      split
      · exact ⟨rfl, hs⟩
      · exact ⟨rfl, hs.note _⟩

end Simulation

end EpisodeGuide
