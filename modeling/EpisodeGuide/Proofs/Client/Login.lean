import EpisodeGuide.Proofs.Client.Listing
import EpisodeGuide.Proofs.Url.Continuation

/-! # Where logins are sent

The address of logins is the text of the base URL with a word behind it, and the address of a
listing is the base URL with words behind its path. Both are below the same base if the text ends
within the path; a query or a fragment takes the word of the login in. -/

namespace EpisodeGuide

open Url

namespace Url

/-! ### Words behind the path of a base -/

section Paths

variable {kind : Kind} {path : List Segment} {text : List Char}

/-- Behind a word, a text that is put there as it is becomes a segment. -/
theorem Path.push_concat_of_faithful {s : Segment} (hs : s ≠ []) (h : Faithful text) :
    push kind (path ++ [s]) text =
      trimmed kind path ++ [s, percentEncode (inSegmentSet kind.isSpecial) text] := by
  obtain ⟨hdot, hdots, hkept⟩ := h
  have hset : inSegmentSet kind.isSpecial '%' = true := by simp [inSegmentSet]
  have hone : isSingleDot (percentEncode (inSegmentSet kind.isSpecial) text) = false :=
    Bool.eq_false_iff.mpr fun hone => hdot (isSingleDot_percentEncode hset hone)
  have htwo : isDoubleDot (percentEncode (inSegmentSet kind.isSpecial) text) = false :=
    Bool.eq_false_iff.mpr fun htwo => hdots (isDoubleDot_percentEncode hset htwo)
  have hfilter : (text.filter fun c => !isIgnored c) = text := by simpa using hkept
  have hadd (t : Segment) (hone : isSingleDot t = false) (htwo : isDoubleDot t = false) :
      add kind true (path ++ [s]) t = path ++ [s] ++ [t] := by
    unfold add
    rw [hone, htwo]
    simp
  rw [push, if_neg (not_or.mpr ⟨hdot, hdots⟩)]
  dsimp only
  rw [hfilter, base_concat hs, hadd _ hone htwo, tidy_concat, trimmed_append_cons hs,
    List.append_assoc]
  rfl

/-- The path of a listing, from the segments that stay in front of a word. -/
theorem Path.foldl_push_of_faithful (h : Faithful text) :
    ["series".toList, text, "episodes".toList, "default".toList].foldl (push kind) path =
      trimmed kind (base path) ++ ["series".toList,
        percentEncode (inSegmentSet kind.isSpecial) text, "episodes".toList, "default".toList] := by
  let coded := percentEncode (inSegmentSet kind.isSpecial) text
  let front := trimmed kind (base path)
  have hfront (rest : List Segment) : trimmed kind (front ++ "series".toList :: rest) =
      front ++ "series".toList :: rest := by
    rw [trimmed_append_cons Path.word_series.ne_nil, trimmed_trimmed]
  have hseries : push kind path "series".toList = front ++ ["series".toList] :=
    Path.word_series.push_eq kind path
  have htext : push kind (front ++ ["series".toList]) text = front ++ ["series".toList, coded] := by
    rw [push_concat_of_faithful Path.word_series.ne_nil h, trimmed_trimmed]
  have hepisodes : push kind (front ++ ["series".toList, coded]) "episodes".toList =
      front ++ ["series".toList, coded, "episodes".toList] := by
    have hlone : front ++ ["series".toList, coded] ≠ [[]] := fun heq => by
      have hlength := congrArg List.length heq
      simp at hlength
    rw [Path.word_episodes.push_eq, base_of_ne hlone, hfront, List.append_assoc]
    rfl
  have hdefault : push kind (front ++ ["series".toList, coded, "episodes".toList])
      "default".toList =
        front ++ ["series".toList, coded, "episodes".toList, "default".toList] := by
    have hsplit : front ++ ["series".toList, coded, "episodes".toList] =
        front ++ ["series".toList, coded] ++ ["episodes".toList] := by
      rw [List.append_assoc]
      rfl
    rw [Path.word_default.push_eq, hsplit, base_concat Path.word_episodes.ne_nil, ← hsplit, hfront,
      List.append_assoc]
    rfl
  rw [List.foldl_cons, List.foldl_cons, List.foldl_cons, List.foldl_cons, List.foldl_nil, hseries,
    htext, hepisodes, hdefault]

end Paths

/-! ### URLs that differ in their paths -/

/-- The same URL, apart from the path. -/
structure SameSite (u v : Url) : Prop where
  scheme : u.scheme = v.scheme
  authority : u.authority? = v.authority?
  query : u.query = v.query
  fragment : u.fragment = v.fragment

/-- Only a URL with a path is extended, and only its path. -/
theorem extend?_eq_some_iff {u v : Url} {texts : List (List Char)} : u.extend? texts = some v ↔
    ∃ a path, u.location = .hierarchical a path ∧ v = { u with
      location := .hierarchical a (texts.foldl (Path.push u.kind) (Path.dropEmptyLast path)) } := by
  unfold extend?
  cases u.location with
  | plain text => simp
  | hierarchical a path => simp [eq_comm]

theorem sameSite_of_extend? {u v w : Url} {texts texts' : List (List Char)}
    (hv : u.extend? texts = some v) (hw : u.extend? texts' = some w) : v.SameSite w := by
  obtain ⟨a, path, hlocation, rfl⟩ := extend?_eq_some_iff.mp hv
  obtain ⟨a', path', hlocation', rfl⟩ := extend?_eq_some_iff.mp hw
  obtain ⟨rfl, rfl⟩ := Location.hierarchical.inj (hlocation.symm.trans hlocation')
  exact ⟨rfl, rfl, rfl, rfl⟩

end Url

/-! ### Logins -/

/-- The address of logins beside a listing below the same base. If the text of the base ends
within its path, the login is the base with a word behind its path: it is on the site of the
listing, and its word stands where the listing has its four. Else the word is behind the query or
the fragment. -/
structure Client.LoginSpec (c : Client) (series : String) (base listing : Url) : Prop where
  read : Url.ofText c.baseUrl = .ok base
  listed : base.extend? ["series".toList, series.toList, "episodes".toList, "default".toList] =
    some listing
  path : EndsInPath c.baseUrl.toList base → ∃ v, Url.ofText c.auth.loginUrl = .ok v ∧
    base.extend? ["login".toList] = some v ∧ v.SameSite listing ∧
    (Path.Faithful series.toList → ∃ front segment, v.segments = front ++ ["login".toList] ∧
      listing.segments = front ++ ["series".toList, segment, "episodes".toList, "default".toList])
  query : ∀ q, base.query = some q → base.fragment = none →
    Url.ofText c.auth.loginUrl = .ok { base with
      query := some (q ++ percentEncode (inQuerySet base.kind.isSpecial)
        (trailingBlanks c.baseUrl.toList) ++ "/login".toList) }
  fragment : ∀ f, base.fragment = some f →
    Url.ofText c.auth.loginUrl = .ok { base with
      fragment := some (f ++ percentEncode inFragmentSet
        (trailingBlanks c.baseUrl.toList) ++ "/login".toList) }

theorem Client.listingUrl_eq_ok_iff {c : Client} {series address : String} :
    c.listingUrl series = .ok address ↔ ∃ base listing, Url.ofText c.baseUrl = .ok base ∧
      base.extend? ["series".toList, series.toList, "episodes".toList, "default".toList] =
        some listing ∧ listing.text = address := by
  constructor
  · intro h
    unfold Client.listingUrl at h
    split at h
    · cases h
    · next base hbase =>
      split at h
      · cases h
      · next listing hlisting => exact ⟨base, listing, hbase, hlisting, Except.ok.inj h⟩
  · rintro ⟨base, listing, hbase, hlisting, rfl⟩
    rw [Client.listingUrl, hbase]
    dsimp only
    rw [hlisting]

/-- Below any base with listings, the login is where the text of the base leads it. -/
theorem Client.new_loginSpec (apiKey : Option String) (text series address : String)
    (h : (Client.new apiKey text).listingUrl series = .ok address) :
    ∃ base listing, listing.text = address ∧
      (Client.new apiKey text).LoginSpec series base listing := by
  obtain ⟨base, listing, hread, hlisted, haddress⟩ := Client.listingUrl_eq_ok_iff.mp h
  obtain ⟨a, path, hlocation, rfl⟩ := extend?_eq_some_iff.mp hlisted
  have hlogin : (Client.new apiKey text).auth.loginUrl.toList =
      (Client.new apiKey text).baseUrl.toList ++ '/' :: login := by
    simp only [Client.new, Authenticator.new, String.toList_append]
    rfl
  have hofText {v : Url} (h : Url.ofChars ((Client.new apiKey text).baseUrl.toList ++
      '/' :: login) = .ok v) : Url.ofText (Client.new apiKey text).auth.loginUrl = .ok v := by
    rw [Url.ofText, hlogin, h]
  refine ⟨base, _, haddress, hread, hlisted, fun hend => ?_, fun q hq hf => ?_, fun f hf => ?_⟩
  · have hextend : base.extend? ["login".toList] = some { base with
        location := .hierarchical a (Path.push base.kind (Path.dropEmptyLast path) login) } :=
      extend?_eq_some_iff.mpr ⟨a, path, hlocation, rfl⟩
    refine ⟨_, hofText (ofChars_append_login_of_path hread hlocation hend), hextend,
      sameSite_of_extend? hextend hlisted, fun hfaithful => ?_⟩
    exact ⟨_, _, Path.word_login.push_eq _ _, Path.foldl_push_of_faithful hfaithful⟩
  · exact hofText (ofChars_append_login_of_query hread hq hf)
  · exact hofText (ofChars_append_login_of_fragment hread hf)

/-- A base with a user name, dots and an empty last segment ends within its path. -/
theorem Client.new_loginSpec_dots :
    let c : Client := .new none "HTTP://Me@[::1]:80/a/../guide/."
    c.listingUrl "4/2" = .ok "http://Me@[::1]/guide/series/4%2F2/episodes/default" ∧
      ∃ base listing, c.LoginSpec "4/2" base listing ∧ EndsInPath c.baseUrl.toList base ∧
        base.text = "http://Me@[::1]/guide/" ∧
        listing.text = "http://Me@[::1]/guide/series/4%2F2/episodes/default" := by
  intro c
  have h : c.listingUrl "4/2" = .ok "http://Me@[::1]/guide/series/4%2F2/episodes/default" := by cbv
  obtain ⟨base, listing, haddress, hspec⟩ := Client.new_loginSpec none _ _ _ h
  have hread : Url.ofText c.baseUrl = .ok ⟨"http".toList, .hierarchical
      (some ⟨"Me".toList, [], .ipv6 [0, 0, 0, 0, 0, 0, 0, 1], none⟩) ["guide".toList, []],
      none, none⟩ := by cbv
  obtain rfl := Except.ok.inj (hread.symm.trans hspec.read)
  have hlast : (normalizeInput c.baseUrl.toList).getLast? = some '.' := by cbv
  refine ⟨h, _, listing, hspec, ⟨rfl, rfl, by cbv, fun d hd => ?_, by simp, ?_⟩, by cbv, haddress⟩
  · obtain rfl := Option.some.inj (hlast.symm.trans hd)
    decide
  · cbv
    decide

/-- A query takes the word of the login in, and the login is not below the path of the listing. -/
theorem Client.loginUrl_query :
    let c : Client := .new (some "key") "https://api4.thetvdb.com/v4?lang=en"
    ∃ base v w, Url.ofText c.baseUrl = .ok base ∧
      c.listingUrl "42" = .ok "https://api4.thetvdb.com/v4/series/42/episodes/default?lang=en" ∧
      c.auth.loginUrl = "https://api4.thetvdb.com/v4?lang=en/login" ∧
      Url.ofText c.auth.loginUrl = .ok v ∧ base.extend? ["login".toList] = some w ∧
      w.text = "https://api4.thetvdb.com/v4/login?lang=en" ∧ v ≠ w := by
  let site (path : List String) (query : String) : Url :=
    ⟨"https".toList, .hierarchical (some ⟨[], [], .domain "api4.thetvdb.com".toList, none⟩)
      (path.map String.toList), some query.toList, none⟩
  exact ⟨site ["v4"] "lang=en", site ["v4"] "lang=en/login", site ["v4", "login"] "lang=en", by cbv,
    by cbv, by cbv, by cbv, by cbv, by cbv, by decide⟩

end EpisodeGuide
