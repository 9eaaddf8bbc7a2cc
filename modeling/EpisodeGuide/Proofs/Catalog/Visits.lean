import EpisodeGuide.Catalog.Open
import EpisodeGuide.Proofs.Catalog.Lockstep

/-! # Lookups of a run

The lookups in a run of a catalog over a client, each with the exchanges that it cost. What no
fetch of the client spoils holds of the client all along. -/

namespace EpisodeGuide

open Http

variable {σ ι : Type}

/-- The source of a catalog that is set up from settings is their client. -/
theorem Library.source_of_ofConfig {config : Config} {surroundings : Surroundings}
    {disk disk' : Disk} {link : σ} {library : Library (Session σ)}
    (h : ofConfig config surroundings disk link = (.ok library, disk')) :
    library.source = ⟨config.client, link, []⟩ := by
  unfold ofConfig at h
  split at h
  · cases h
  · cases h
    rfl

/-- A lookup at a second: the exchanges that it cost, the answer, and the catalog before and after
it. -/
structure ClientVisit (σ : Type) where
  time : Int
  series : String
  refresh : Bool
  exchanges : List Exchange
  answer : Option (List Episode)
  before : Catalog (Session σ)
  after : Catalog (Session σ)

namespace Catalog

def recorded (c : Catalog (Session σ)) : Catalog (Session (Recorded σ)) :=
  ⟨c.source.recorded, c.cache, c.log⟩

def lookupExchanges (send : Transport σ) (now : Int) (series : String) (refresh : Bool)
    (c : Catalog (Session σ)) : List Exchange :=
  (c.recorded.get (Session.source (recording send now) now) now series refresh).2.source.link.past

def visit (send : Transport σ) (now : Int) (series : String) (refresh : Bool)
    (c : Catalog (Session σ)) : ClientVisit σ :=
  let (answer, after) := c.get (Session.source send now) now series refresh
  ⟨now, series, refresh, c.lookupExchanges send now series refresh, answer, c, after⟩

/-- The lookups of a run that starts at the second `clock`. -/
def visits (channel : Channel σ ι) : List (CatalogStep ι) → (clock : Int) → Catalog (Session σ) →
    List (ClientVisit σ)
  | [], _, _ => []
  | .move (.get series refresh) :: steps, clock, c =>
      let v := c.visit channel.send clock series refresh
      v :: visits channel steps clock v.after
  | .move m :: steps, clock, c =>
      visits channel steps (m.clockAfter clock)
        (c.make (Session.source channel.send clock) clock m).2
  | .deliver items :: steps, clock, c =>
      visits channel steps clock (c.supply (channel.deliver items))

/-! ### What a lookup costs -/

section Lookup

variable {send : Transport σ} {now : Int} {series : String} {refresh : Bool}
  {c : Catalog (Session σ)}

theorem lookupExchanges_of_blank (h : Text.isBlank series = true) :
    c.lookupExchanges send now series refresh = [] := by
  rw [lookupExchanges, get_of_blank h]
  rfl

theorem lookupExchanges_of_hit {episodes : List Episode} (hb : Text.isBlank series = false)
    (h : c.cache.read now series = .hit episodes) :
    c.lookupExchanges send now series false = [] := by
  have hread : c.recorded.cache.read now series = .hit episodes := h
  rw [lookupExchanges, get_of_hit hb hread]
  rfl

theorem lookupExchanges_of_asks (hb : Text.isBlank series = false)
    (h : c.Asks now series refresh) :
    c.lookupExchanges send now series refresh = c.exchanges send now series := by
  have hasks : c.recorded.Asks now series refresh := h
  rw [lookupExchanges, get_of_asks hb hasks]
  rfl

/-- A lookup costs nothing, or what its fetch costs. -/
theorem lookupExchanges_cases :
    c.lookupExchanges send now series refresh = [] ∨
      c.lookupExchanges send now series refresh = c.exchanges send now series := by
  cases hb : Text.isBlank series with
  | true => exact .inl (lookupExchanges_of_blank hb)
  | false =>
      by_cases h : c.Asks now series refresh
      · exact .inr (lookupExchanges_of_asks hb h)
      · obtain ⟨rfl, episodes, hread⟩ := exists_hit_of_not_asks h
        exact .inl (lookupExchanges_of_hit hb hread)

end Lookup

/-! ### What lasts over a run -/

section Lasting

variable {channel : Channel σ ι} {P : Client → Prop} {c : Catalog (Session σ)}

theorem make_cases (clock : Int) (m : CatalogMove) :
    (∃ series refresh, m = .get series refresh) ∨
      ∀ (ask : Source σ) (c : Catalog σ), (c.make ask clock m).2.source = c.source := by
  by_cases h : ∃ series refresh, m = .get series refresh
  · exact .inl h
  · refine .inr fun ask c => ?_
    have hne : ∀ series refresh, m ≠ .get series refresh :=
      fun series refresh heq => h ⟨series, refresh, heq⟩
    exact congrArg (fun made => made.2.source) (make_of_ne_get clock hne ask ask c c.source)

theorem make_client (hfetch : ∀ now series (s : Session σ), P s.client →
      P (s.fetch channel.send now series).2.client)
    (clock : Int) (m : CatalogMove) (h : P c.source.client) :
    P (c.make (Session.source channel.send clock) clock m).2.source.client := by
  rcases make_cases clock m with ⟨series, refresh, rfl⟩ | hsource
  · change P (c.get (Session.source channel.send clock) clock series refresh).2.source.client
    rcases c.source_get (Session.source channel.send clock) series refresh with hsource | hsource
    · rwa [hsource]
    · rw [hsource]
      exact hfetch clock series { c.source with log := [] } h
  · rwa [hsource]

theorem forall_trace (hfetch : ∀ now series (s : Session σ), P s.client →
      P (s.fetch channel.send now series).2.client)
    (steps : List (CatalogStep ι)) (clock : Int) (h : P c.source.client) :
    ∀ made ∈ c.trace channel steps clock, P made.2.source.client := by
  induction steps generalizing clock c with
  | nil => simp [trace]
  | cons step steps ih =>
      cases step with
      | move m =>
          have hmade := make_client hfetch clock m h
          exact List.forall_mem_cons.mpr ⟨hmade, ih _ hmade⟩
      | deliver items => exact List.forall_mem_cons.mpr ⟨h, ih clock h⟩

/-- Every lookup of a run is one of a catalog whose client still has the property. -/
theorem forall_visits (hfetch : ∀ now series (s : Session σ), P s.client →
      P (s.fetch channel.send now series).2.client)
    (steps : List (CatalogStep ι)) (clock : Int) (h : P c.source.client) :
    ∀ v ∈ c.visits channel steps clock, ∃ (before : Catalog (Session σ)) (now : Int)
      (series : String) (refresh : Bool), P before.source.client ∧
        v = before.visit channel.send now series refresh := by
  induction steps generalizing clock c with
  | nil => simp [visits]
  | cons step steps ih =>
      cases step with
      | move m =>
          have hmade := make_client hfetch clock m h
          cases m with
          | get series refresh =>
              exact List.forall_mem_cons.mpr ⟨⟨c, clock, series, refresh, h, rfl⟩, ih clock hmade⟩
          | clear | read | write | clearCache | advance | disturb => exact ih _ hmade
      | deliver items => exact ih clock h

end Lasting

end Catalog

end EpisodeGuide
