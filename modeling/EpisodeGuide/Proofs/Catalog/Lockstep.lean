import EpisodeGuide.Proofs.Catalog.Freshness
import EpisodeGuide.Proofs.Exchange.Simulation

/-! # Catalogs in lockstep

Two catalogs that are asked the same over links that correspond answer the same, write the same and
report the same, move by move. Between the moves both links may get further items. -/

namespace EpisodeGuide

open Http

variable {σ τ ι : Type}

/-! ### Runs over links that get items -/

/-- A way to send requests over a link and to put items behind those that it has. -/
structure Channel (σ ι : Type) where
  send : Transport σ
  deliver : List ι → σ → σ

/-- A move of a catalog, or a delivery to its link. -/
inductive CatalogStep (ι : Type) where
  | move (m : CatalogMove)
  | deliver (items : List ι)

/-- What comes of a move. -/
inductive CatalogAnswer where
  | list (episodes : Option (List Episode))
  | cleared (done : Bool)
  | found (lookup : Lookup)
  | written (result : Except CacheError Unit)
  | removed (result : Except CacheError ℕ)
  | nothing

def CatalogMove.clockAfter (clock : Int) : CatalogMove → Int
  | .advance seconds => clock + seconds
  | _ => clock

namespace Catalog

def make (ask : Source σ) (clock : Int) (c : Catalog σ) : CatalogMove → CatalogAnswer × Catalog σ
  | .get series refresh => (c.get ask clock series refresh).map .list id
  | .clear series => (c.clear series).map .cleared id
  | .read series => (c.read clock series).map .found id
  | .write series episodes => (c.write clock series episodes).map .written id
  | .clearCache scope =>
      let (result, db) := c.cache.clear scope
      (.removed result, { c with cache := db })
  | .advance _ => (.nothing, c)
  | .disturb db => (.nothing, { c with cache := db })

def supply (change : σ → σ) (c : Catalog (Session σ)) : Catalog (Session σ) :=
  { c with source := { c.source with link := change c.source.link } }

/-- What comes of every step of a run that starts at the second `clock`, with the catalog behind the
step. -/
def trace (channel : Channel σ ι) : List (CatalogStep ι) → (clock : Int) → Catalog (Session σ) →
    List (CatalogAnswer × Catalog (Session σ))
  | [], _, _ => []
  | .move m :: steps, clock, c =>
      let made := c.make (Session.source channel.send clock) clock m
      made :: trace channel steps (m.clockAfter clock) made.2
  | .deliver items :: steps, clock, c =>
      let supplied := c.supply (channel.deliver items)
      (.nothing, supplied) :: trace channel steps clock supplied

/-- The catalog that a run leaves. -/
def leave (channel : Channel σ ι) : List (CatalogStep ι) → (clock : Int) → Catalog (Session σ) →
    Catalog (Session σ)
  | [], _, c => c
  | .move m :: steps, clock, c =>
      leave channel steps (m.clockAfter clock)
        (c.make (Session.source channel.send clock) clock m).2
  | .deliver items :: steps, clock, c =>
      leave channel steps clock (c.supply (channel.deliver items))

/-- A catalog over a database, with a client that has no token yet. -/
def start (apiKey : Option String) (baseUrl : String) (maxPages : UInt32) (db : Database)
    (link : σ) : Catalog (Session σ) :=
  ⟨⟨(Client.new apiKey baseUrl).withMaxPages maxPages, link, []⟩, db, []⟩

/-! ### Catalogs that correspond -/

/-- Catalogs with the same cache and the same events, whose clients and links correspond. -/
structure Corresponds (Q : Correspondence σ τ) (c₁ : Catalog (Session σ))
    (c₂ : Catalog (Session τ)) : Prop where
  cache : c₁.cache = c₂.cache
  log : c₁.log = c₂.log
  work : Q c₁.source.client c₁.source.link c₂.source.client c₂.source.link

/-- The same answer, with catalogs that correspond. -/
def Alike {α : Type} (Q : Correspondence σ τ) (x : α × Catalog (Session σ))
    (y : α × Catalog (Session τ)) : Prop :=
  x.1 = y.1 ∧ Corresponds Q x.2 y.2

variable {clock : Int}

/-- A lookup leaves the source as it is, or as asking it for the series leaves it. -/
theorem source_get (ask : Source σ) (series : String) (refresh : Bool) (c : Catalog σ) :
    (c.get ask clock series refresh).2.source = c.source ∨
      (c.get ask clock series refresh).2.source = (ask series c.source).2 := by
  cases hb : Text.isBlank series with
  | true => exact .inl (by rw [get_of_blank hb])
  | false =>
      by_cases h : c.Asks clock series refresh
      · exact .inr (by rw [get_of_asks hb h])
      · obtain ⟨rfl, episodes, hread⟩ := exists_hit_of_not_asks h
        exact .inl (by rw [get_of_hit hb hread])

/-- Moves other than lookups do not look at the source. -/
theorem make_of_ne_get (clock : Int) {m : CatalogMove}
    (hm : ∀ series refresh, m ≠ .get series refresh) (ask : Source σ) (ask' : Source τ)
    (c : Catalog σ) (source : τ) :
    make ask' clock ⟨source, c.cache, c.log⟩ m =
      ((c.make ask clock m).1,
        ⟨source, (c.make ask clock m).2.cache, (c.make ask clock m).2.log⟩) := by
  cases m with
  | get series refresh => exact (hm series refresh rfl).elim
  | clear series =>
      simp only [make, clear]
      rcases c.cache.clear (Text.nonBlank? series) with ⟨_ | _, db⟩ <;> rfl
  | write series episodes =>
      simp only [make, write]
      rcases c.cache.write clock series episodes with ⟨_ | _, db⟩ <;> rfl
  | _ => rfl

end Catalog

/-! ### Lockstep -/

/-- Catalogs that correspond to the same one correspond to each other. -/
theorem Catalog.forall₂_alike {υ α : Type} {Q₁ : Correspondence σ τ} {Q₂ : Correspondence σ υ}
    {Q : Correspondence τ υ} {xs : List (α × Catalog (Session σ))}
    {ys : List (α × Catalog (Session τ))} {zs : List (α × Catalog (Session υ))}
    (hQ : ∀ {c l c₁ l₁ c₂ l₂}, Q₁ c l c₁ l₁ → Q₂ c l c₂ l₂ → Q c₁ l₁ c₂ l₂)
    (h₁ : List.Forall₂ (Alike Q₁) xs ys) (h₂ : List.Forall₂ (Alike Q₂) xs zs) :
    List.Forall₂ (Alike Q) ys zs := by
  induction h₁ generalizing zs with
  | nil =>
      cases h₂
      exact .nil
  | cons hy _ ih =>
      cases h₂ with
      | cons hz hzs =>
          refine .cons ⟨hy.1.symm.trans hz.1, ?_, ?_, hQ hy.2.work hz.2.work⟩ (ih hzs)
          · exact hy.2.cache.symm.trans hz.2.cache
          · exact hy.2.log.symm.trans hz.2.log

namespace Simulation

variable {send₁ : Transport σ} {send₂ : Transport τ} {Sound : σ → Prop} {Listing : String → Prop}
  {Q : Correspondence σ τ} {c₁ : Catalog (Session σ)} {c₂ : Catalog (Session τ)} {clock : Int}
  (S : Simulation send₁ send₂ Sound Listing Q)
include S

theorem source {s₁ : Session σ} {s₂ : Session τ} (series : String)
    (h : Q s₁.client s₁.link s₂.client s₂.link)
    (hsound : Sound (Session.source send₁ clock series s₁).2.link) :
    (Session.source send₁ clock series s₁).1 = (Session.source send₂ clock series s₂).1 ∧
      Q (Session.source send₁ clock series s₁).2.client
        (Session.source send₁ clock series s₁).2.link
        (Session.source send₂ clock series s₂).2.client
        (Session.source send₂ clock series s₂).2.link := by
  have hbefore : Session.Corresponds Q { s₁ with log := [] } { s₂ with log := [] } := ⟨h, rfl⟩
  obtain ⟨hfound, hs⟩ := S.fetch clock series hbefore hsound
  exact ⟨Prod.ext hfound hs.log, hs.work⟩

theorem get (series : String) (refresh : Bool) (h : Catalog.Corresponds Q c₁ c₂)
    (hsound : Sound (c₁.get (Session.source send₁ clock) clock series refresh).2.source.link) :
    Catalog.Alike Q (c₁.get (Session.source send₁ clock) clock series refresh)
      (c₂.get (Session.source send₂ clock) clock series refresh) := by
  obtain ⟨s₁, db, log⟩ := c₁
  obtain ⟨s₂, _, _⟩ := c₂
  obtain ⟨rfl, rfl, hq⟩ := h
  cases hb : Text.isBlank series with
  | true =>
      rw [Catalog.get_of_blank hb, Catalog.get_of_blank hb]
      exact ⟨rfl, rfl, rfl, hq⟩
  | false =>
      by_cases hasks : Catalog.Asks clock series refresh ⟨s₁, db, log⟩
      · have hasks₂ : Catalog.Asks clock series refresh ⟨s₂, db, log⟩ := hasks
        rw [Catalog.get_of_asks hb hasks] at hsound ⊢
        rw [Catalog.get_of_asks hb hasks₂]
        obtain ⟨hresult, hq⟩ := S.source series hq hsound
        have hfound : Catalog.asked (Session.source send₁ clock) series ⟨s₁, db, log⟩ =
            Catalog.asked (Session.source send₂ clock) series ⟨s₂, db, log⟩ :=
          congrArg Prod.fst hresult
        have hevents : Catalog.askedEvents (Session.source send₁ clock) series ⟨s₁, db, log⟩ =
            Catalog.askedEvents (Session.source send₂ clock) series ⟨s₂, db, log⟩ :=
          congrArg Prod.snd hresult
        rw [hfound, hevents]
        exact ⟨rfl, rfl, rfl, hq⟩
      · obtain ⟨rfl, episodes, hread⟩ := Catalog.exists_hit_of_not_asks hasks
        rw [Catalog.get_of_hit (c := ⟨s₁, db, log⟩) hb hread,
          Catalog.get_of_hit (c := ⟨s₂, db, log⟩) hb hread]
        exact ⟨rfl, rfl, rfl, hq⟩

theorem make (clock : Int) (m : CatalogMove) (h : Catalog.Corresponds Q c₁ c₂)
    (hsound : Sound (c₁.make (Session.source send₁ clock) clock m).2.source.link) :
    Catalog.Alike Q (c₁.make (Session.source send₁ clock) clock m)
      (c₂.make (Session.source send₂ clock) clock m) := by
  by_cases hm : ∃ series refresh, m = .get series refresh
  · obtain ⟨series, refresh, rfl⟩ := hm
    obtain ⟨hresult, hc⟩ := S.get series refresh h hsound
    exact ⟨congrArg CatalogAnswer.list hresult, hc⟩
  · have hne : ∀ series refresh, m ≠ .get series refresh :=
      fun series refresh heq => hm ⟨series, refresh, heq⟩
    obtain ⟨s₁, db, log⟩ := c₁
    obtain ⟨s₂, _, _⟩ := c₂
    obtain ⟨rfl, rfl, hq⟩ := h
    rw [Catalog.make_of_ne_get clock hne (Session.source send₁ clock) (Session.source send₁ clock)
        ⟨s₁, db, log⟩ s₁,
      Catalog.make_of_ne_get clock hne (Session.source send₁ clock) (Session.source send₂ clock)
        ⟨s₁, db, log⟩ s₂]
    exact ⟨rfl, rfl, rfl, hq⟩

end Simulation

/-- A link that is so behind a move was so before it. -/
theorem Inherited.make {send : Transport σ} {P : σ → Prop} (h : Inherited send P) {clock : Int}
    {c : Catalog (Session σ)} {m : CatalogMove}
    (hp : P (c.make (Session.source send clock) clock m).2.source.link) : P c.source.link := by
  by_cases hm : ∃ series refresh, m = .get series refresh
  · obtain ⟨series, refresh, rfl⟩ := hm
    change P (c.get (Session.source send clock) clock series refresh).2.source.link at hp
    rcases c.source_get (Session.source send clock) series refresh with hsource | hsource
    · rwa [hsource] at hp
    · rw [hsource] at hp
      exact h.fetch clock (s := { c.source with log := [] }) hp
  · have hne : ∀ series refresh, m ≠ .get series refresh :=
      fun series refresh heq => hm ⟨series, refresh, heq⟩
    have hmake := c.make_of_ne_get clock hne (Session.source send clock) (Session.source send clock)
      c.source
    rw [hmake] at hp
    exact hp

/-- Over two channels, clients that correspond go on alike, and so they do when both links get the
same items. -/
structure Lockstep (ch₁ : Channel σ ι) (ch₂ : Channel τ ι) (Sound : σ → Prop)
    (Listing : String → Prop) (Q : Correspondence σ τ) : Prop
    extends Simulation ch₁.send ch₂.send Sound Listing Q where
  soundDelivery : ∀ items l, Sound (ch₁.deliver items l) → Sound l
  delivery : ∀ {c₁ l₁ c₂ l₂} items, Q c₁ l₁ c₂ l₂ → Sound (ch₁.deliver items l₁) →
    Q c₁ (ch₁.deliver items l₁) c₂ (ch₂.deliver items l₂)

namespace Lockstep

variable {ch₁ : Channel σ ι} {ch₂ : Channel τ ι} {Sound : σ → Prop} {Listing : String → Prop}
  {Q : Correspondence σ τ} {c₁ : Catalog (Session σ)} {c₂ : Catalog (Session τ)}
  (S : Lockstep ch₁ ch₂ Sound Listing Q)
include S

/-- A link that is sound at the end of a run was sound all the time. -/
theorem sound_of_leave (steps : List (CatalogStep ι)) (clock : Int) {c : Catalog (Session σ)}
    (h : Sound (c.leave ch₁ steps clock).source.link) : Sound c.source.link := by
  induction steps generalizing clock c with
  | nil => exact h
  | cons step steps ih =>
      cases step with
      | move m => exact S.sound.make (ih _ h)
      | deliver items => exact S.soundDelivery items _ (ih _ h)

theorem supply (items : List ι) (h : Catalog.Corresponds Q c₁ c₂)
    (hsound : Sound (c₁.supply (ch₁.deliver items)).source.link) :
    Catalog.Corresponds Q (c₁.supply (ch₁.deliver items)) (c₂.supply (ch₂.deliver items)) :=
  ⟨h.cache, h.log, S.delivery items h.work hsound⟩

/-- Runs of catalogs that correspond, step by step. -/
theorem trace (steps : List (CatalogStep ι)) (clock : Int) (h : Catalog.Corresponds Q c₁ c₂)
    (hsound : Sound (c₁.leave ch₁ steps clock).source.link) :
    List.Forall₂ (Catalog.Alike Q) (c₁.trace ch₁ steps clock) (c₂.trace ch₂ steps clock) := by
  induction steps generalizing clock c₁ c₂ with
  | nil => exact .nil
  | cons step steps ih =>
      cases step with
      | move m =>
          have halike := S.make clock m h (S.sound_of_leave steps _ hsound)
          exact .cons halike (ih _ halike.2 hsound)
      | deliver items =>
          have hsupplied := S.supply items h (S.sound_of_leave steps clock hsound)
          exact .cons ⟨rfl, hsupplied⟩ (ih clock hsupplied hsound)

theorem leave (steps : List (CatalogStep ι)) (clock : Int) (h : Catalog.Corresponds Q c₁ c₂)
    (hsound : Sound (c₁.leave ch₁ steps clock).source.link) :
    Catalog.Corresponds Q (c₁.leave ch₁ steps clock) (c₂.leave ch₂ steps clock) := by
  induction steps generalizing clock c₁ c₂ with
  | nil => exact h
  | cons step steps ih =>
      cases step with
      | move m => exact ih _ (S.make clock m h (S.sound_of_leave steps _ hsound)).2 hsound
      | deliver items =>
          exact ih clock (S.supply items h (S.sound_of_leave steps clock hsound)) hsound

end Lockstep

end EpisodeGuide
