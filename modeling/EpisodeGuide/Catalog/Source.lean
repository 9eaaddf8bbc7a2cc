import EpisodeGuide.Client.Fetch

/-!
Sources of episode lists: a client at work, or a script of prepared lists. A source never fails; it
hands out what it has, and the events of getting it.
-/

namespace EpisodeGuide

/-- A way to get the episodes of a series, over a state of its own. -/
abbrev Source (σ : Type) :=
  String → σ → (List Episode × List Event) × σ

def Session.source {σ : Type} (send : Http.Transport σ) (now : Int) : Source (Session σ) :=
  fun series s =>
    let (episodes, s) := { s with log := [] }.fetch send now series
    ((episodes, s.log), { s with log := [] })

/-- Lists to hand out one after the other, and the series asked for so far. -/
structure Playlist where
  lists : List (List Episode)
  asked : List String
  deriving DecidableEq, Repr

/-- Prepared lists as a source; after the last one every list is empty. -/
def Playlist.source : Source Playlist :=
  fun series p => ((p.lists.headD [], []), ⟨p.lists.tail, p.asked ++ [series]⟩)

end EpisodeGuide
