import EpisodeGuide.Proofs.Exchange.Held
import EpisodeGuide.Proofs.Exchange.Simulation

/-! # Recorded exchanges

A recording transport passes requests on and keeps every exchange. It answers like the transport
behind it, so a session over the one goes like a session over the other. -/

namespace EpisodeGuide

open Http Provider

variable {σ τ : Type}

/-! ### Transports that answer alike -/

/-- Links in `R` answer every request alike and stay in `R`. -/
def AnswerAlike (send₁ : Transport σ) (send₂ : Transport τ) (R : σ → τ → Prop) : Prop :=
  ∀ request l₁ l₂, R l₁ l₂ →
    (send₁ request l₁).1 = (send₂ request l₂).1 ∧ R (send₁ request l₁).2 (send₂ request l₂).2

namespace Session

/-- Sessions that agree in everything but their links, which are in `R`. -/
structure Mirrors (R : σ → τ → Prop) (s₁ : Session σ) (s₂ : Session τ) : Prop where
  client : s₁.client = s₂.client
  link : R s₁.link s₂.link
  log : s₁.log = s₂.log

/-- Equal results with sessions that mirror each other. -/
def Agree {α : Type} (R : σ → τ → Prop) (x : α × Session σ) (y : α × Session τ) : Prop :=
  x.1 = y.1 ∧ Mirrors R x.2 y.2

variable {send₁ : Transport σ} {send₂ : Transport τ} {R : σ → τ → Prop}
  {s₁ : Session σ} {s₂ : Session τ}

/-- The same client over links in `R`. -/
def SameClient (R : σ → τ → Prop) : Correspondence σ τ :=
  fun c₁ l₁ c₂ l₂ => c₁ = c₂ ∧ R l₁ l₂

/-- Over links that answer alike, one client goes one way. -/
theorem simulation_of_answerAlike (hsend : AnswerAlike send₁ send₂ R) :
    Simulation send₁ send₂ (fun _ => True) (fun _ => True) (SameClient R) where
  sound := fun _ _ _ => trivial
  baseUrl := fun h => congrArg Client.baseUrl h.1
  maxPages := fun h => congrArg Client.maxPages h.1
  listing := fun _ _ => trivial
  valid := fun now h => by rw [h.1]
  forget := fun h => ⟨congrArg (Client.withToken none) h.1, h.2⟩
  login := by
    rintro c l₁ _ l₂ now ⟨rfl, hl⟩ -
    cases hkey : c.auth.apiKey with
    | none =>
        rw [Authenticator.login_of_no_key hkey, Authenticator.login_of_no_key hkey]
        exact .failed _ ⟨rfl, hl⟩
    | some key =>
        obtain ⟨hout, hlink⟩ := hsend (c.auth.loginRequest key) l₁ l₂ hl
        rw [Authenticator.login_of_key hkey, Authenticator.login_of_key hkey, hout]
        exact .of_same ⟨rfl, hlink⟩ fun _ _ => ⟨rfl, hlink⟩
  page := by
    rintro c l₁ _ l₂ endpoint t₁ t₂ page ⟨rfl, hl⟩ - h₁ h₂ -
    obtain rfl : t₁ = t₂ := Option.some.inj (h₁.symm.trans h₂)
    obtain ⟨hout, hlink⟩ := hsend (pageRequest endpoint t₁ page) l₁ l₂ hl
    exact ⟨hout, rfl, hlink⟩

theorem mirrors_iff : Mirrors R s₁ s₂ ↔ Corresponds (SameClient R) s₁ s₂ :=
  ⟨fun h => ⟨⟨h.client, h.link⟩, h.log⟩, fun h => ⟨h.work.1, h.work.2, h.log⟩⟩

theorem getToken_agree (hsend : AnswerAlike send₁ send₂ R) (now : Int) (h : Mirrors R s₁ s₂) :
    Agree R (s₁.getToken send₁ now) (s₂.getToken send₂ now) := by
  have halike := (simulation_of_answerAlike hsend).getToken now (mirrors_iff.mp h) trivial
  generalize s₁.getToken send₁ now = x at halike
  generalize s₂.getToken send₂ now = y at halike
  cases halike with
  | missing h => exact ⟨rfl, mirrors_iff.mpr h⟩
  | held h₁ h₂ h =>
      rw [← h.work.1] at h₂
      exact ⟨h₁.symm.trans h₂, mirrors_iff.mpr h⟩

theorem requestPage_agree (hsend : AnswerAlike send₁ send₂ R) (now : Int) (endpoint : String)
    (page : Nat) (h : Mirrors R s₁ s₂) :
    Agree R (s₁.requestPage send₁ now endpoint page) (s₂.requestPage send₂ now endpoint page) := by
  have hlisting : (fun _ : String => True) endpoint := trivial
  obtain ⟨hresult, hs⟩ :=
    (simulation_of_answerAlike hsend).requestPage now page hlisting (mirrors_iff.mp h) trivial
  exact ⟨hresult, mirrors_iff.mpr hs⟩

theorem fetch_agree (hsend : AnswerAlike send₁ send₂ R) (now : Int) (series : String)
    (h : Mirrors R s₁ s₂) :
    Agree R (s₁.fetch send₁ now series) (s₂.fetch send₂ now series) := by
  obtain ⟨hresult, hs⟩ :=
    (simulation_of_answerAlike hsend).fetch now series (mirrors_iff.mp h) trivial
  exact ⟨hresult, mirrors_iff.mpr hs⟩

end Session

/-! ### Recordings -/

/-- A link with the exchanges that went over it. -/
structure Recorded (σ : Type) where
  link : σ
  past : List Exchange

/-- The transport that keeps every exchange, at the second `now`. -/
def recording (send : Transport σ) (now : Int) : Transport (Recorded σ) := fun request r =>
  let (outcome, link) := send request r.link
  (outcome, ⟨link, r.past ++ [⟨now, request, outcome⟩]⟩)

/-- The exchanges lead from one state of a link to another. -/
inductive Conversation (send : Transport σ) : σ → List Exchange → σ → Prop where
  | silent (l) : Conversation send l [] l
  | snoc {l es m} (time request) : Conversation send l es m →
      Conversation send l (es ++ [⟨time, request, (send request m).1⟩]) (send request m).2

/-- A recording mirrors the link behind it, and its past is the conversation since `l₀`. -/
def Tracks (send : Transport σ) (l₀ : σ) (r : Recorded σ) (l : σ) : Prop :=
  r.link = l ∧ Conversation send l₀ r.past l

theorem recording_tracks (send : Transport σ) (now : Int) (l₀ : σ) :
    AnswerAlike (recording send now) send (Tracks send l₀) := by
  rintro request r _ ⟨rfl, hconversation⟩
  exact ⟨rfl, rfl, hconversation.snoc now request⟩

namespace Session

def recorded (s : Session σ) : Session (Recorded σ) :=
  ⟨s.client, ⟨s.link, []⟩, s.log⟩

theorem recorded_mirrors (send : Transport σ) (s : Session σ) :
    Mirrors (Tracks send s.link) s.recorded s :=
  ⟨rfl, ⟨rfl, .silent _⟩, rfl⟩

def tokenExchanges (send : Transport σ) (now : Int) (s : Session σ) : List Exchange :=
  (s.recorded.getToken (recording send now) now).2.link.past

def fetchExchanges (send : Transport σ) (now : Int) (series : String) (s : Session σ) :
    List Exchange :=
  (s.recorded.fetch (recording send now) now series).2.link.past

theorem getToken_recorded (send : Transport σ) (now : Int) (s : Session σ) :
    Agree (Tracks send s.link) (s.recorded.getToken (recording send now) now)
      (s.getToken send now) :=
  getToken_agree (recording_tracks send now s.link) now (recorded_mirrors send s)

theorem fetch_recorded (send : Transport σ) (now : Int) (series : String) (s : Session σ) :
    Agree (Tracks send s.link) (s.recorded.fetch (recording send now) now series)
      (s.fetch send now series) :=
  fetch_agree (recording_tracks send now s.link) now series (recorded_mirrors send s)

end Session

end EpisodeGuide
