import EpisodeGuide.Client.Fetch
import EpisodeGuide.Proofs.Url.Appending
import EpisodeGuide.Proofs.Url.Reader

/-! # Addresses of listings

The address of a listing is the text of the base URL with another path in it. A series has a segment
of its own there that spells its identifier, unless the identifier holds tabs or line breaks or
consists of dots; these are left out or lead elsewhere. -/

namespace EpisodeGuide

open Url

namespace Url

/-! ### The text around a path -/

def segments (u : Url) : List Segment :=
  match u.location with
  | .hierarchical _ path => path
  | .plain _ => []

/-- The text of a URL with an authority up to its path. -/
def front (u : Url) : List Char :=
  u.scheme ++ ':' :: '/' :: '/' :: u.authority?.elim [] Authority.print

/-- The text of a URL behind its path. -/
def rear (u : Url) : List Char :=
  printOptional '?' u.query ++ printOptional '#' u.fragment

theorem print_withPath {u : Url} {a : Authority} {path : List Segment}
    (h : u.location = .hierarchical (some a) path) (path' : List Segment) :
    ({ u with location := .hierarchical (some a) path' } : Url).print =
      u.front ++ Path.print path' ++ u.rear := by
  simp [print, Location.print, front, rear, authority?, h]

/-! ### Paths of listings -/

/-- The segments in front of new ones: an empty last segment gives way. -/
def stem (u : Url) : List Segment :=
  Path.base (Path.dropEmptyLast u.segments)

/-- The segments of a series whose identifier is put into a path as `kept?` says. One dot leaves an
empty segment there, and two dots leave one in the place of the word before. -/
def seriesSegments (kept? : Option (List Char)) : List Segment :=
  match kept? with
  | none => ["series".toList]
  | some ['.'] => ["series".toList, []]
  | some ['.', '.'] => [[]]
  | some kept => ["series".toList, percentEncode (inSegmentSet true) kept]

def listingPath (u : Url) (series : List Char) : List Segment :=
  Path.base (u.stem ++ seriesSegments (Path.kept? series)) ++
    ["episodes".toList, "default".toList]

section Paths

variable {port : Option ℕ} {stem : List Segment} {series : List Char}

theorem push_series : Path.push (.special port) (stem ++ ["series".toList]) series =
    stem ++ seriesSegments (Path.kept? series) := by
  have hbase : Path.base (stem ++ ["series".toList]) = stem ++ ["series".toList] :=
    Path.base_concat (by decide)
  unfold seriesSegments
  split
  · next hkept => rw [Path.push_of_none _ _ hkept]
  · next hkept =>
    rw [Path.push_dot hkept, hbase, List.append_assoc]
    rfl
  · next hkept =>
    have hpop : popSegment (stem ++ ["series".toList]) = stem := by
      rw [popSegment, List.getLast?_concat, List.dropLast_concat]
      exact if_neg (by decide)
    rw [Path.push_dots hkept, hbase, hpop]
  · next kept hdot hdots hkept =>
    rw [Path.push_segment hkept hdot hdots, hbase, List.append_assoc]
    rfl

theorem foldl_push (u : Url) (series : List Char) :
    ["series".toList, series, "episodes".toList, "default".toList].foldl
      (Path.push (.special port)) (Path.dropEmptyLast u.segments) = u.listingPath series := by
  have hbefore : Path.push (.special port) (Path.dropEmptyLast u.segments) "series".toList =
      u.stem ++ ["series".toList] :=
    Path.word_series.push_eq _ _
  have hbehind (path : List Segment) : Path.push (.special port)
      (Path.push (.special port) path "episodes".toList) "default".toList =
        Path.base path ++ ["episodes".toList, "default".toList] := by
    rw [Path.word_episodes.push_eq, Path.word_default.push_eq,
      Path.base_concat Path.word_episodes.ne_nil]
    exact List.append_assoc _ _ _
  rw [List.foldl_cons, List.foldl_cons, List.foldl_cons, List.foldl_cons, List.foldl_nil, hbefore,
    hbehind, listingPath, push_series]

/-! ### Identifiers read back from a path -/

theorem seriesSegments_of_segment {kept : List Char} (hdot : kept ≠ ['.'])
    (hdots : kept ≠ ['.', '.']) :
    seriesSegments (some kept) = ["series".toList, percentEncode (inSegmentSet true) kept] := by
  unfold seriesSegments
  split <;> simp_all

theorem append_seriesSegments_ne_nil (x : Option (List Char)) : stem ++ seriesSegments x ≠ [] := by
  unfold seriesSegments
  split <;> simp

/-- Every text but an empty one leaves segments of its own. -/
theorem seriesSegments_inj {x y : Option (List Char)} (hx : x ≠ some []) (hy : y ≠ some [])
    (h : seriesSegments x = seriesSegments y) : x = y := by
  have hcoded {s t : List Char} (hst : percentEncode (inSegmentSet true) s =
      percentEncode (inSegmentSet true) t) : s = t :=
    percentEncode_inj Path.inSegmentSet_percent hst
  unfold seriesSegments at h
  split at h <;> split at h <;> try simp_all
  · exact (hy (hcoded h)).elim
  · exact (hx (hcoded h)).elim
  · exact hcoded h

/-- A text is spelled by a segment of its own exactly if it is put there as it is. -/
theorem faithful_iff_spelled (stem : List Segment) : Path.Faithful series ↔
    ∃ segment, Path.base (stem ++ seriesSegments (Path.kept? series)) =
        stem ++ ["series".toList, segment] ∧
      decodeUtf8? (percentDecode segment) = some series := by
  have hspell := decode_percentEncode Path.inSegmentSet_percent
  have hbase (segment : Segment) : Path.base (stem ++ ["series".toList, segment]) =
      stem ++ ["series".toList, segment] := Path.base_of_ne fun h => by
    have hlength := congrArg List.length h
    simp at hlength
  constructor
  · intro h
    refine ⟨percentEncode (inSegmentSet true) series, ?_, hspell series⟩
    rw [Path.faithful_iff.mp h, seriesSegments_of_segment h.1 h.2.1, hbase]
  · rintro ⟨segment, hpath, hspelled⟩
    rw [← hbase] at hpath
    have hsegments : seriesSegments (Path.kept? series) = ["series".toList, segment] :=
      List.append_cancel_left
        (Path.base_inj (append_seriesSegments_ne_nil _) (by simp) hpath)
    unfold seriesSegments at hsegments
    split at hsegments
    · cases hsegments
    · next hkept =>
      -- An empty segment spells the empty text, which is put there as it is.
      obtain rfl : segment = [] := by simpa using hsegments.symm
      obtain rfl : [] = series := Option.some.inj ((decodeUtf8?_flatMap []).symm.trans hspelled)
      cases hkept
    · cases hsegments
    · next kept _ _ hkept =>
      obtain rfl : percentEncode (inSegmentSet true) kept = segment := by simpa using hsegments
      rw [hspell] at hspelled
      exact Path.faithful_iff.mpr (hkept.trans hspelled)

theorem spelled_iff {u : Url} : Path.Faithful series ↔
    ∃ segment, u.listingPath series =
        u.stem ++ ["series".toList, segment, "episodes".toList, "default".toList] ∧
      decodeUtf8? (percentDecode segment) = some series := by
  rw [faithful_iff_spelled u.stem]
  refine exists_congr fun segment => and_congr_left fun _ => ?_
  rw [listingPath, ← List.append_left_inj ["episodes".toList, "default".toList],
    List.append_assoc u.stem]
  rfl

/-- Only white space is left out of an identifier. -/
theorem kept?_ne_nil {series : String} (h : Text.isBlank series = false) :
    Path.kept? series.toList ≠ some [] := by
  intro hkept
  have hignored : ∀ c ∈ series.toList, Path.isIgnored c = true := by
    unfold Path.kept? at hkept
    split at hkept
    · cases hkept
    · simpa [List.filter_eq_nil_iff] using hkept
  have hblank : Text.isBlank series = true := List.all_eq_true.mpr fun c hc => by
    have hc := hignored c hc
    simp only [Path.isIgnored, Bool.or_eq_true, beq_iff_eq] at hc
    rcases hc with (rfl | rfl) | rfl <;> decide
  rw [h] at hblank
  cases hblank

theorem listingPath_inj {u : Url} {a b : String} (ha : Text.isBlank a = false)
    (hb : Text.isBlank b = false) :
    u.listingPath a.toList = u.listingPath b.toList ↔
      Path.kept? a.toList = Path.kept? b.toList := by
  refine ⟨fun h => ?_, fun h => by rw [listingPath, listingPath, h]⟩
  exact seriesSegments_inj (kept?_ne_nil ha) (kept?_ne_nil hb) (List.append_cancel_left
    (Path.base_inj (append_seriesSegments_ne_nil _) (append_seriesSegments_ne_nil _)
      (List.append_cancel_right h)))

/-! ### Slashes -/

theorem slash_notMem_seriesSegments {x : Option (List Char)} {s : Segment}
    (h : s ∈ seriesSegments x) : '/' ∉ s := by
  have hword : '/' ∉ "series".toList := by decide
  have hcoded (kept : List Char) : '/' ∉ percentEncode (inSegmentSet true) kept := fun hmem => by
    have hplain := (slash_of_mem_percentEncode hmem).2
    simp [inSegmentSet] at hplain
  unfold seriesSegments at h
  split at h <;> simp only [List.mem_cons, List.not_mem_nil, or_false] at h
  · exact h ▸ hword
  · rcases h with rfl | rfl
    · exact hword
    · exact List.not_mem_nil
  · exact h ▸ List.not_mem_nil
  · rcases h with rfl | rfl
    · exact hword
    · exact hcoded _

theorem slash_notMem_stem {u : Url} (h : ∀ s ∈ u.segments, '/' ∉ s) : ∀ s ∈ u.stem, '/' ∉ s :=
  fun s hs => h s (Path.mem_of_mem_dropEmptyLast (Path.mem_of_mem_base hs))

theorem splitOn_listingPath {u : Url} (h : ∀ s ∈ u.segments, '/' ∉ s) (series : List Char) :
    (Path.print (u.listingPath series)).splitOn '/' = [] :: u.listingPath series := by
  refine Path.splitOn_print (List.forall_mem_append.mpr ⟨fun s hs => ?_, by decide⟩)
  rcases List.mem_append.mp (Path.mem_of_mem_base hs) with hstem | hseries
  · exact slash_notMem_stem h s hstem
  · exact slash_notMem_seriesSegments hseries

/-- The stem of a path is the path without an empty last segment, save for two empty segments. -/
theorem stem_eq (u : Url) (h : u.segments ≠ [[], []]) :
    u.stem = if u.segments.getLast? = some [] then u.segments.dropLast else u.segments := by
  by_cases hlast : u.segments.getLast? = some []
  · obtain ⟨path, hpath⟩ := List.getLast?_eq_some_iff.mp hlast
    have hlone : path ≠ [[]] := fun heq => h (by rw [hpath, heq]; rfl)
    rw [stem, hpath, Path.base_dropEmptyLast_concat hlone, if_pos List.getLast?_concat,
      List.dropLast_concat]
  · have hlone : u.segments ≠ [[]] := fun heq => hlast (by rw [heq]; rfl)
    simp [stem, Path.dropEmptyLast, hlast, Path.base_of_ne hlone]

end Paths

end Url

/-! ### Listings -/

/-- The addresses of listings below a base. The text around the path of the base is kept, its
segments are those between slashes, and what stands behind them spells the identifier exactly if
that is put there as it is. Two addresses are the same exactly if the same is left of both
identifiers. -/
structure ListingSpec (c : Client) (base : Url) : Prop where
  text : base.print = base.front ++ Path.print base.segments ++ base.rear
  textSplit : (Path.print base.segments).splitOn '/' = [] :: base.segments
  stem : base.segments ≠ [[], []] →
    base.stem = if base.segments.getLast? = some [] then base.segments.dropLast else base.segments
  listed : ∀ series : String, c.listingUrl series = .ok (String.ofList
    (base.front ++ Path.print (base.listingPath series.toList) ++ base.rear))
  listedSplit : ∀ series : String, (Path.print (base.listingPath series.toList)).splitOn '/' =
    [] :: base.listingPath series.toList
  faithful : ∀ series : String, Path.Faithful series.toList ↔
    ∃ segment, base.listingPath series.toList =
        base.stem ++ ["series".toList, segment, "episodes".toList, "default".toList] ∧
      decodeUtf8? (percentDecode segment) = some series.toList
  apart : ∀ a b : String, Path.Faithful a.toList → Path.Faithful b.toList →
    c.listingUrl a = c.listingUrl b → a = b
  shared : ∀ a b : String, Text.isBlank a = false → Text.isBlank b = false →
    (c.listingUrl a = c.listingUrl b ↔ Path.kept? a.toList = Path.kept? b.toList)

theorem Client.listingUrl_eq {c : Client} {base : Url} {port : Option ℕ} {a : Authority}
    {path : List Segment} (hbase : Url.ofText c.baseUrl = .ok base)
    (hkind : base.kind = .special port) (hlocation : base.location = .hierarchical (some a) path)
    (series : String) :
    c.listingUrl series = .ok (String.ofList
      (base.front ++ Path.print (base.listingPath series.toList) ++ base.rear)) := by
  have hsegments : base.segments = path := by simp [segments, hlocation]
  have hextend : base.extend? ["series".toList, series.toList, "episodes".toList,
      "default".toList] =
      some { base with location := .hierarchical (some a) (base.listingPath series.toList) } := by
    rw [Url.extend?, hlocation, hkind, ← foldl_push, hsegments]
  rw [Client.listingUrl, hbase]
  simp only [hextend]
  rw [Url.text, print_withPath hlocation]

/-- All addresses of listings below a base of the web are of this kind. -/
theorem Client.listingUrl_listingSpec (c : Client) (base : Url)
    (hbase : Url.ofText c.baseUrl = .ok base)
    (hscheme : base.scheme = "http".toList ∨ base.scheme = "https".toList) :
    ListingSpec c base := by
  obtain ⟨port, hkind⟩ : ∃ port, base.kind = .special port := by
    rcases hscheme with h | h
    · exact ⟨some 80, by rw [Url.kind, h]; rfl⟩
    · exact ⟨some 443, by rw [Url.kind, h]; rfl⟩
  obtain ⟨a, s, hlocation⟩ := location_of_ofText hbase hkind
  have hsegments : base.segments = readPath (.special port) s := by simp [segments, hlocation]
  have hslash : ∀ segment ∈ base.segments, '/' ∉ segment := fun segment hmem =>
    slash_notMem_readPath (hsegments ▸ hmem)
  have hlisted := Client.listingUrl_eq hbase hkind hlocation
  have hsplit (series : String) := splitOn_listingPath hslash series.toList
  have hsame (a b : String) : c.listingUrl a = c.listingUrl b ↔
      base.listingPath a.toList = base.listingPath b.toList := by
    refine ⟨fun h => ?_, fun h => by rw [hlisted, hlisted, h]⟩
    rw [hlisted, hlisted] at h
    have hprint := List.append_cancel_left (List.append_cancel_right
      (String.ofList_injective (Except.ok.inj h)))
    have hsegments := hsplit a
    rw [hprint, hsplit b] at hsegments
    exact (List.cons.inj hsegments).2.symm
  refine ⟨?_, Path.splitOn_print hslash, base.stem_eq, hlisted, hsplit, fun _ => spelled_iff,
    fun a b ha hb h => ?_, fun a b ha hb => (hsame a b).trans (listingPath_inj ha hb)⟩
  · rw [← print_withPath hlocation, hsegments, ← hlocation]
  · obtain ⟨segment, hpath, hspelled⟩ := (spelled_iff (u := base)).mp ha
    obtain ⟨segment', hpath', hspelled'⟩ := (spelled_iff (u := base)).mp hb
    rw [← (hsame a b).mp h, hpath] at hpath'
    obtain rfl : segment = segment' := by simpa using List.append_cancel_left hpath'
    exact String.toList_injective (Option.some.inj (hspelled.symm.trans hspelled'))

/-- A base with a slash at the end of its path and a query. -/
theorem Client.listingUrl_listingSpec_query :
    let c : Client := .new none "HTTP://Example.com:80/guide/?lang=en"
    let base : Url := ⟨"http".toList, .hierarchical
      (some ⟨[], [], .domain "example.com".toList, none⟩) ["guide".toList, []],
      some "lang=en".toList, none⟩
    Url.ofText c.baseUrl = .ok base ∧ base.scheme = "http".toList ∧ ListingSpec c base := by
  intro c base
  have hbase : Url.ofText c.baseUrl = .ok base := by cbv
  exact ⟨hbase, rfl, Client.listingUrl_listingSpec c base hbase (.inl rfl)⟩

/-- A tab within an identifier is left out, so two series share one address. -/
theorem Client.listingUrl_tab :
    Text.isBlank "a\tb" = false ∧ Text.isBlank "ab" = false ∧ "a\tb" ≠ "ab" ∧
      (Client.new none defaultBaseUrl).listingUrl "a\tb" =
        .ok "https://api4.thetvdb.com/v4/series/ab/episodes/default" ∧
      (Client.new none defaultBaseUrl).listingUrl "ab" =
        .ok "https://api4.thetvdb.com/v4/series/ab/episodes/default" :=
  ⟨by decide +kernel, by decide +kernel, by decide, by cbv, by cbv⟩

end EpisodeGuide
