import EpisodeGuide.Proofs.Client.Listing
import EpisodeGuide.Proofs.Session.Walk
import EpisodeGuide.Proofs.Url.Normal

/-! # Where the pages of a listing are asked for

Whatever the identifier of a series, its listing is on the site of the base URL and below its
path. The address reads back as itself, so no part of the identifier is taken for another part
of the URL. -/

namespace EpisodeGuide

open Http Url

namespace Url

def directory (u : Url) : List Segment :=
  if u.segments.getLast? = some [] then u.segments.dropLast else u.segments

/-- A URL on the site of a base and below its path. Two empty segments are the exception: they give
way as a whole. -/
structure Below (base v : Url) : Prop where
  scheme : v.scheme = base.scheme
  authority : v.authority? = base.authority?
  query : v.query = base.query
  fragment : v.fragment = base.fragment
  path : base.segments ≠ [[], []] → base.directory <+: v.segments

/-- An address that reads back as itself, below a base. -/
def LeadsBelow (base : Url) (address : String) : Prop :=
  ∃ v, ofText address = .ok v ∧ v.text = address ∧ base.Below v

theorem stem_prefix_listingPath (u : Url) (series : List Char) :
    u.stem <+: u.listingPath series := by
  unfold listingPath Path.base
  split
  · next hlone =>
    -- A lone empty segment is the one that two dots leave, so nothing stands before it.
    have hstem : u.stem = [] := by
      by_contra hne
      have hlength := congrArg List.length hlone
      have hpos := List.length_pos_iff.mpr hne
      have hpos' : 0 < (seriesSegments (Path.kept? series)).length := by
        unfold seriesSegments
        split <;> simp
      rw [List.length_append, List.length_singleton] at hlength
      omega
    rw [hstem]
    exact List.nil_prefix
  · rw [List.append_assoc]
    exact List.prefix_append _ _

end Url

/-- The address of a listing leads below its base. -/
theorem Client.listingUrl_leadsBelow {c : Client} {base : Url} {port : Option ℕ}
    (hbase : Url.ofText c.baseUrl = .ok base) (hkind : base.kind = .special port)
    (series : String) :
    ∃ address, c.listingUrl series = .ok address ∧ base.LeadsBelow address := by
  obtain ⟨a, path, hnormal⟩ := exists_normal_of_ofChars hbase hkind
  have hsegments : base.segments = path := by simp [segments, hnormal.location]
  have hlisting : ∀ s ∈ base.listingPath series.toList, NormalSegment s := by
    have hfront : ∀ s ∈ Path.dropEmptyLast base.segments, NormalSegment s := fun s hs =>
      hnormal.segments s (hsegments ▸ Path.mem_of_mem_dropEmptyLast hs)
    have hpushed : ∀ s ∈ ["series".toList, series.toList, "episodes".toList, "default".toList].foldl
        (Path.push (.special port)) (Path.dropEmptyLast base.segments), NormalSegment s :=
      Path.normal_foldl_push hfront _
    rwa [foldl_push] at hpushed
  have hne : base.listingPath series.toList ≠ [] := by simp [listingPath]
  have hv := hnormal.withPath hne hlisting
  refine ⟨Url.text
      { base with location := .hierarchical (some a) (base.listingPath series.toList) },
    ?_, _, ?_, rfl, ?_⟩
  · rw [Client.listingUrl_eq hbase hkind hnormal.location, Url.text,
      print_withPath hnormal.location]
  · rw [Url.ofText, Url.text, String.toList_ofList]
    exact hv.ofChars_print
  · exact {
      scheme := rfl
      authority := by simp [authority?, hnormal.location]
      query := rfl
      fragment := rfl
      path := fun hlone => by
        rw [directory, ← stem_eq base hlone]
        exact stem_prefix_listingPath base series.toList }

/-! ### Fetching below a base -/

variable {σ : Type}

/-- Where a client asks for listings: every address is below the base, whatever the series is, and
so is every page that a fetch asks for. -/
structure Session.OriginSpec (send : Transport σ) (now : Int) (s : Session σ) (base : Url) :
    Prop where
  listed : ∀ series : String, ∃ address, s.client.listingUrl series = .ok address ∧
    base.LeadsBelow address
  requested : ∀ series : String, ∀ e ∈ s.fetchExchanges send now series,
    e.request.method = .get → base.LeadsBelow e.request.url

/-- No series identifier leads the token of a client away from its base. -/
theorem Session.fetch_originSpec (send : Transport σ) (now : Int) (s : Session σ) (base : Url)
    (hbase : Url.ofText s.client.baseUrl = .ok base)
    (hscheme : base.scheme = "http".toList ∨ base.scheme = "https".toList) :
    s.OriginSpec send now base := by
  obtain ⟨port, hkind⟩ : ∃ port, base.kind = .special port := by
    rcases hscheme with h | h
    · exact ⟨some 80, by rw [Url.kind, h]; rfl⟩
    · exact ⟨some 443, by rw [Url.kind, h]; rfl⟩
  have hlisted := Client.listingUrl_leadsBelow hbase hkind
  refine ⟨hlisted, fun series e he hget => ?_⟩
  obtain ⟨address, haddress, hbelow⟩ := hlisted series
  have hwalk := fetchExchanges_derivation send now series address s haddress
  rw [((hwalk.proper e he).2 hget).1]
  exact hbelow

/-- A base with a user name, an address of 128 bits, a query and a fragment. -/
theorem Session.fetch_originSpec_user :
    let s : Session Script :=
      ⟨.new (some "key") "HTTP://Me:pw@[::1]:8080/a/../guide/?lang=en#top", ⟨[], []⟩, []⟩
    let base : Url := ⟨"http".toList, .hierarchical
      (some ⟨"Me".toList, "pw".toList, .ipv6 [0, 0, 0, 0, 0, 0, 0, 1], some 8080⟩)
      ["guide".toList, []], some "lang=en".toList, some "top".toList⟩
    Url.ofText s.client.baseUrl = .ok base ∧ base.scheme = "http".toList ∧
      s.OriginSpec Script.send 0 base := by
  intro s base
  have hbase : Url.ofText s.client.baseUrl = .ok base := by cbv
  exact ⟨hbase, rfl, Session.fetch_originSpec Script.send 0 s base hbase (.inl rfl)⟩

/-- Two empty segments of a base give way as a whole, so the listing is not below its path. -/
theorem Client.listingUrl_emptySegments :
    let c : Client := .new (some "key") "https://api4.thetvdb.com//."
    ∃ base v, Url.ofText c.baseUrl = .ok base ∧ base.scheme = "https".toList ∧
      c.listingUrl "42" = .ok "https://api4.thetvdb.com/series/42/episodes/default" ∧
      Url.ofText "https://api4.thetvdb.com/series/42/episodes/default" = .ok v ∧
      base.directory = [[]] ∧ ¬ base.directory <+: v.segments := by
  refine ⟨⟨"https".toList, .hierarchical
      (some ⟨[], [], .domain "api4.thetvdb.com".toList, none⟩) [[], []], none, none⟩,
    ⟨"https".toList, .hierarchical (some ⟨[], [], .domain "api4.thetvdb.com".toList, none⟩)
      ["series".toList, "42".toList, "episodes".toList, "default".toList], none, none⟩,
    by cbv, rfl, by cbv, by cbv, by decide, by decide⟩

end EpisodeGuide
