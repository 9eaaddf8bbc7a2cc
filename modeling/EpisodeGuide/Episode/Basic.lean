/-!
Episodes of television series. An episode belongs to the series with its identifier and is numbered
within a season; season 0 holds specials. A missing title or air date is the empty text.
-/

namespace EpisodeGuide

structure Episode where
  seriesId : String
  season : UInt32
  number : UInt32
  name : String
  airDate : String
  deriving DecidableEq, Repr

namespace Episode

/-- The order of a listing: by season, then by number. -/
def Precedes (a b : Episode) : Prop :=
  a.season < b.season ∨ (a.season = b.season ∧ a.number ≤ b.number)

instance (a b : Episode) : Decidable (a.Precedes b) :=
  inferInstanceAs (Decidable (_ ∨ _))

/-- A listing in its order; episodes with the same season and number keep theirs. -/
def sorted (episodes : List Episode) : List Episode :=
  episodes.mergeSort (fun a b => decide (a.Precedes b))

end Episode

end EpisodeGuide
