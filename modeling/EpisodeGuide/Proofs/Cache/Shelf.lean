import EpisodeGuide.Proofs.Cache.Change
import EpisodeGuide.Proofs.Episode.Sorting
import Mathlib

/-! # The table as a shelf of lists

A shelf holds one list of episodes for every series that has one, with the time of its writing.
The table keeps the rows of the lists one behind the other, in the order of writing, and every
operation on the table is one on the shelf. -/

namespace EpisodeGuide

/-! ### Rows of episodes -/

def Episode.under (series : String) (e : Episode) : Episode :=
  { e with seriesId := series }

theorem Cell.readNumber_integer (column : Column) (w : UInt32) :
    (Cell.integer w.toNat).readNumber column = .ok w := by
  rw [Cell.readNumber, Word.unsigned32?_toNat]

namespace Row

variable {series : String} {time : Int}

theorem store_ofEpisode (e : Episode) : (ofEpisode series time e).store = ofEpisode series time e :=
  rfl

theorem isOf_ofEpisode (id : String) (e : Episode) :
    (ofEpisode series time e).isOf id = decide (series = id) := by
  by_cases h : series = id <;> simp [isOf, ofEpisode, h]

theorem decode_ofEpisode (e : Episode) :
    (ofEpisode series time e).decode series = .ok (e.under series, time) := by
  unfold decode ofEpisode
  rw [Cell.readNumber_integer, Cell.readNumber_integer]
  rfl

/-- Rows of episodes are read in the order of the episodes. -/
theorem order_ofEpisode (a b : Episode) :
    ((ofEpisode series time a).order (ofEpisode series time b) != .gt) =
      decide (a.Precedes b) := by
  rw [Bool.eq_iff_iff, decide_eq_true_iff, Episode.precedes_iff]
  simp only [order, ofEpisode, Cell.order, bne_iff_ne, ne_eq]
  rcases Int.lt_trichotomy a.season.toNat b.season.toNat with hs | hs | hs
  · simp [Int.compare_eq_lt.mpr hs]
    omega
  · rw [Int.compare_eq_eq.mpr hs]
    simp [Ordering.then, Int.compare_eq_gt]
    omega
  · simp [Int.compare_eq_gt.mpr hs]
    omega

end Row

namespace Table

variable {series : String} {time : Int}

theorem rowsOf_ofEpisode (episodes : List Episode) :
    (episodes.map (Row.ofEpisode series time)).mergeSort (fun a b => a.order b != .gt) =
      (Episode.sorted episodes).map (Row.ofEpisode series time) := by
  rw [Episode.sorted, List.map_mergeSort]
  intro a _ b _
  exact (Row.order_ofEpisode a b).symm

theorem decode_rows (episodes : List Episode) :
    (episodes.map (Row.ofEpisode series time)).mapM (Row.decode series) =
      .ok (episodes.map fun e => (e.under series, time)) := by
  induction episodes with
  | nil => rfl
  | cons e episodes ih =>
      rw [List.map_cons, List.mapM_cons, Row.decode_ofEpisode, ih]
      rfl

end Table

theorem Episode.sorted_under (series : String) (episodes : List Episode) :
    (Episode.sorted episodes).map (Episode.under series) =
      Episode.sorted (episodes.map (Episode.under series)) := by
  rw [Episode.sorted, Episode.sorted, List.map_mergeSort]
  intro a _ b _
  rfl

/-! ### Shelves -/

/-- The list of a series and the second at which it was written. -/
structure Holding where
  series : String
  time : Int
  episodes : List Episode
  deriving DecidableEq, Repr

def covers (scope : Option String) (series : String) : Bool :=
  match scope with
  | some id => series = id
  | none => true

namespace Holding

def rows (h : Holding) : List Row :=
  h.episodes.map (Row.ofEpisode h.series (cacheTime h.time))

def lookup (clock : Int) (h : Holding) : Lookup :=
  if h.episodes = [] then .absent
  else if cacheLifetime < cacheTime clock - cacheTime h.time then .expired
  else .hit (Episode.sorted (h.episodes.map (Episode.under h.series)))

theorem lookup_eq_hit_iff (clock : Int) (h : Holding) (episodes : List Episode) :
    h.lookup clock = .hit episodes ↔
      h.episodes ≠ [] ∧ max clock 0 - max h.time 0 ≤ 86400 ∧
        episodes = Episode.sorted (h.episodes.map (Episode.under h.series)) := by
  by_cases hempty : h.episodes = []
  · simp [lookup, hempty]
  · by_cases hage : cacheLifetime < cacheTime clock - cacheTime h.time
    · have hold : ¬ max clock 0 - max h.time 0 ≤ 86400 := Int.not_le.mpr hage
      simp [lookup, hempty, hage, hold]
    · have hyoung : max clock 0 - max h.time 0 ≤ 86400 := Int.not_lt.mp hage
      simp [lookup, hempty, hage, hyoung, eq_comm]

theorem lookup_cases (clock : Int) (h : Holding) :
    (∃ episodes, h.lookup clock = .hit episodes) ∨ h.lookup clock = .absent ∨
      h.lookup clock = .expired := by
  unfold lookup
  split
  · exact .inr (.inl rfl)
  · split
    · exact .inr (.inr rfl)
    · exact .inl ⟨_, rfl⟩

theorem inScope_of_mem {h : Holding} {r : Row} (scope : Option String) (hr : r ∈ h.rows) :
    Database.inScope scope r = covers scope h.series := by
  obtain ⟨e, -, rfl⟩ := List.mem_map.mp hr
  cases scope with
  | none => rfl
  | some id => exact Row.isOf_ofEpisode id e

/-- A list is read in order, and its first row tells the age of all. -/
theorem load_eq (h : Holding) :
    (h.rows.mergeSort (fun a b => a.order b != .gt)).mapM (Row.decode h.series) =
      .ok ((Episode.sorted (h.episodes.map (Episode.under h.series))).map
        fun e => (e, cacheTime h.time)) := by
  rw [rows, Table.rowsOf_ofEpisode, Table.decode_rows, ← Episode.sorted_under, List.map_map]
  rfl

end Holding

/-- The age of a list counts as it is, however far it is from the 64 bits in which it is taken. -/
theorem cacheLifetime_lt_iff (clock time : Int) :
    cacheLifetime < Word.saturatingSub (cacheTime clock) time ↔
      cacheLifetime < cacheTime clock - time :=
  Word.lt_saturatingSub_iff (by decide) (by decide)

theorem Database.judge_sameAge (clock time : Int) (episodes : List Episode) :
    judge clock (episodes.map fun e => (e, time)) =
      if episodes = [] then .absent
      else if cacheLifetime < cacheTime clock - time then .expired
      else .hit episodes := by
  cases episodes with
  | nil => rfl
  | cons e episodes => simp [judge, cacheLifetime_lt_iff, Function.comp_def]

def shelfRows (shelf : List Holding) : List Row :=
  shelf.flatMap Holding.rows

/-- At most one list for every series. -/
def OnePerSeries (shelf : List Holding) : Prop :=
  (shelf.map Holding.series).Nodup

/-- Puts a list on the shelf, in place of the one that the series had. -/
def putOnShelf (h : Holding) (shelf : List Holding) : List Holding :=
  shelf.filter (fun x => !covers (some h.series) x.series) ++ [h]

def takeOffShelf (scope : Option String) (shelf : List Holding) : List Holding :=
  shelf.filter (fun x => !covers scope x.series)

theorem mem_putOnShelf {g h : Holding} {shelf : List Holding} :
    h ∈ putOnShelf g shelf ↔ h = g ∨ (h.series ≠ g.series ∧ h ∈ shelf) := by
  simp [putOnShelf, covers, or_comm, and_comm]

theorem mem_takeOffShelf {scope : Option String} {h : Holding} {shelf : List Holding} :
    h ∈ takeOffShelf scope shelf ↔ ¬ covers scope h.series = true ∧ h ∈ shelf := by
  simp [takeOffShelf, and_comm]

/-- Rows that are told apart by their series are told apart list by list. -/
theorem filter_shelfRows {p : Row → Bool} {q : Holding → Bool}
    (hpq : ∀ h : Holding, ∀ r ∈ h.rows, p r = q h) (shelf : List Holding) :
    (shelfRows shelf).filter p = shelfRows (shelf.filter q) := by
  induction shelf with
  | nil => rfl
  | cons h shelf ih =>
      rw [shelfRows, List.flatMap_cons, List.filter_append, ← shelfRows, ih, List.filter_cons]
      cases hq : q h with
      | true =>
          have hall : h.rows.filter p = h.rows :=
            List.filter_eq_self.mpr fun r hr => (hpq h r hr).trans hq
          simp [hall, shelfRows]
      | false =>
          have hnone : h.rows.filter p = [] :=
            List.filter_eq_nil_iff.mpr fun r hr => by simp [hpq h r hr, hq]
          simp [hnone, shelfRows]

theorem length_shelfRows (shelf : List Holding) :
    (shelfRows shelf).length = (shelf.map fun h => h.episodes.length).sum := by
  rw [shelfRows, List.length_flatMap]
  simp [Holding.rows]

theorem filter_of_mem {shelf : List Holding} (hone : OnePerSeries shelf) {h : Holding}
    (hmem : h ∈ shelf) : shelf.filter (fun x => covers (some h.series) x.series) = [h] := by
  obtain ⟨xs, ys, rfl⟩ := List.mem_iff_append.mp hmem
  rw [OnePerSeries, List.map_append, List.map_cons, List.nodup_append, List.nodup_cons] at hone
  obtain ⟨-, ⟨hys, -⟩, hxs⟩ := hone
  have hbefore : xs.filter (fun x => covers (some h.series) x.series) = [] := by
    refine List.filter_eq_nil_iff.mpr fun x hx => ?_
    simpa [covers] using hxs x.series (List.mem_map_of_mem hx) h.series (List.mem_cons_self ..)
  have hafter : ys.filter (fun x => covers (some h.series) x.series) = [] := by
    refine List.filter_eq_nil_iff.mpr fun x hx => ?_
    have hne : x.series ≠ h.series := fun heq => hys (heq ▸ List.mem_map_of_mem hx)
    simpa [covers] using hne
  rw [List.filter_append, List.filter_cons, hbefore, hafter]
  simp [covers]

theorem OnePerSeries.eq_of_series {shelf : List Holding} (hone : OnePerSeries shelf)
    {g h : Holding} (hg : g ∈ shelf) (hh : h ∈ shelf) (heq : g.series = h.series) : g = h := by
  have halone := filter_of_mem hone hh
  have hmem : g ∈ shelf.filter (fun x => covers (some h.series) x.series) :=
    List.mem_filter.mpr ⟨hg, by simp [covers, heq]⟩
  rw [halone] at hmem
  exact List.mem_singleton.mp hmem

theorem OnePerSeries.takeOff {shelf : List Holding} (hone : OnePerSeries shelf)
    (scope : Option String) : OnePerSeries (takeOffShelf scope shelf) :=
  hone.sublist (List.filter_sublist.map _)

theorem OnePerSeries.put {shelf : List Holding} (hone : OnePerSeries shelf) (h : Holding) :
    OnePerSeries (putOnShelf h shelf) := by
  rw [OnePerSeries, putOnShelf, List.map_append, List.nodup_append]
  refine ⟨hone.takeOff (some h.series), by simp, ?_⟩
  intro a ha b hb
  obtain ⟨x, hx, rfl⟩ := List.mem_map.mp ha
  have hother := List.of_mem_filter hx
  obtain rfl : b = h.series := by simpa using hb
  simpa [covers] using hother

/-! ### Operations on the table -/

namespace Database

/-- The database that keeps a shelf. -/
def ofShelf (shelf : List Holding) : Database :=
  ⟨some (shelfRows shelf), []⟩

theorem fault?_ofShelf (p : Row → Bool) (new : List Row) (shelf : List Holding) :
    (ofShelf shelf).fault? p new = none := by
  simp [fault?, ofShelf]

/-- Replacing the rows of a scope takes its lists off the shelf. -/
theorem replaced_ofShelf (scope : Option String) (new : List Row) (shelf : List Holding) :
    (ofShelf shelf).replaced (inScope scope) new =
      ⟨some (shelfRows (takeOffShelf scope shelf) ++ new.map Row.store), []⟩ := by
  have hothers : (shelfRows shelf).filter (fun r => !inScope scope r) =
      shelfRows (takeOffShelf scope shelf) :=
    filter_shelfRows (fun h r hr => congrArg (!·) (h.inScope_of_mem scope hr)) shelf
  rw [replaced, ofShelf, Option.getD_some, hothers]

variable (clock : Int) (series : String) (episodes : List Episode) (shelf : List Holding)

/-- Writing a list puts it on the shelf. -/
theorem write_eq :
    write clock series episodes (ofShelf shelf) =
      (.ok (), ofShelf (putOnShelf ⟨series, clock, episodes⟩ shelf)) := by
  have hstore : (newRows clock series episodes).map Row.store =
      Holding.rows ⟨series, clock, episodes⟩ := by
    simp [newRows, Holding.rows, Function.comp_def, Row.store_ofEpisode]
  have hreplaced := replaced_ofShelf (some series) (newRows clock series episodes) shelf
  rw [write_eq_fault, fault?_ofShelf]
  change (_, (ofShelf shelf).replaced (inScope (some series)) _) = _
  rw [hreplaced, hstore]
  simp [ofShelf, putOnShelf, takeOffShelf, shelfRows]

/-- Clearing takes lists off the shelf and counts their episodes. -/
theorem clear_eq (scope : Option String) :
    clear scope (ofShelf shelf) =
      (.ok ((shelf.filter fun h => covers scope h.series).map fun h => h.episodes.length).sum,
        ofShelf (takeOffShelf scope shelf)) := by
  have hremoved : (shelfRows shelf).filter (inScope scope) =
      shelfRows (shelf.filter fun h => covers scope h.series) :=
    filter_shelfRows (fun h r hr => h.inScope_of_mem scope hr) shelf
  rw [clear_eq_fault, fault?_ofShelf, replaced_ofShelf]
  simp only [ofShelf, Option.getD_some, hremoved, length_shelfRows, List.map_nil, List.append_nil]

theorem read_eq :
    read clock series (ofShelf shelf) =
      match ((shelfRows (shelf.filter fun h => covers (some series) h.series)).mergeSort
        (fun a b => a.order b != .gt)).mapM (Row.decode series) with
      | .ok found => judge clock found
      | .error fault => .failed (.queryFailed fault) := by
  have hrows : (shelfRows shelf).filter (Row.isOf series) =
      shelfRows (shelf.filter fun h => covers (some series) h.series) :=
    filter_shelfRows (fun h r hr => h.inScope_of_mem (some series) hr) shelf
  rw [← hrows]
  rfl

/-- Reading a series looks up the list that is on the shelf for it. -/
theorem read_of_mem {h : Holding} (hone : OnePerSeries shelf) (hmem : h ∈ shelf) :
    read clock h.series (ofShelf shelf) = h.lookup clock := by
  have hrows : shelfRows [h] = h.rows := by simp [shelfRows]
  rw [read_eq, filter_of_mem hone hmem, hrows, h.load_eq]
  simp only [judge_sameAge, Holding.lookup, Episode.sorted_eq_nil_iff, List.map_eq_nil_iff]

theorem read_of_notMem (hnone : ∀ h ∈ shelf, h.series ≠ series) :
    read clock series (ofShelf shelf) = .absent := by
  have hfilter : shelf.filter (fun h => covers (some series) h.series) = [] :=
    List.filter_eq_nil_iff.mpr fun h hh => by simpa [covers] using hnone h hh
  rw [read_eq, hfilter, shelfRows, List.flatMap_nil, List.mergeSort_nil]
  rfl

end Database

end EpisodeGuide
