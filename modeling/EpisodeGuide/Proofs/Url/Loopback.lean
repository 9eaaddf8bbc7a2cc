import EpisodeGuide.Http.Wire
import EpisodeGuide.Proofs.Client.Origin
import EpisodeGuide.Proofs.Url.Continuation
import EpisodeGuide.Proofs.Url.Form

/-! # URLs of a server on this machine

A text that continues the origin of such a server like a path is read as a URL on its site. Where
the server is asked for a target, origin and target together are read as the URL that was meant. -/

namespace EpisodeGuide.Url

variable {port : UInt16} {s t : List Char}

/-! ### Texts behind visible characters -/

/-- What reading leaves of the text behind visible characters. -/
def normalizeRest (t : List Char) : List Char :=
  (t.reverse.dropWhile isPadding).reverse.filter fun c => !Path.isIgnored c

theorem not_isPadding {c : Char} (h : 0x20 < c.toNat) : isPadding c = false := by
  simpa [isPadding] using h

theorem normalizeRest_append (h : ∀ c ∈ s, 0x20 < c.toNat) (t : List Char) :
    normalizeRest (s ++ t) = s ++ normalizeRest t := by
  have hkept : s.filter (fun c => !Path.isIgnored c) = s := by
    refine List.filter_eq_self.mpr fun c hc => ?_
    have hc := h c hc
    simp only [Path.isIgnored, Bool.not_eq_true', Bool.or_eq_false_iff, beq_eq_false_iff_ne]
    refine ⟨⟨?_, ?_⟩, ?_⟩ <;> rintro rfl <;> revert hc <;> decide
  have hpadding : s.reverse.dropWhile isPadding = s.reverse := by
    cases hs : s.reverse with
    | nil => rfl
    | cons c r =>
        have hc : c ∈ s := List.mem_reverse.mp (hs ▸ List.mem_cons_self)
        exact List.dropWhile_cons_of_neg (by simp [not_isPadding (h c hc)])
  rw [normalizeRest, normalizeRest, List.reverse_append, List.dropWhile_append]
  split
  · next hrest =>
    rw [List.isEmpty_iff.mp hrest, hpadding, List.reverse_reverse, hkept]
    simp
  · rw [List.reverse_append, List.reverse_reverse, List.filter_append, hkept]

theorem normalizeInput_append (hne : s ≠ []) (h : ∀ c ∈ s, 0x20 < c.toNat) (t : List Char) :
    normalizeInput (s ++ t) = s ++ normalizeRest t := by
  obtain ⟨c, r, rfl⟩ := List.exists_cons_of_ne_nil hne
  have hc : isPadding c = false := not_isPadding (h c (by simp))
  rw [← normalizeRest_append h, normalizeInput, normalizeRest, List.cons_append,
    List.dropWhile_cons_of_neg (by simp [hc])]

theorem mem_of_mem_normalizeRest {c : Char} (h : c ∈ normalizeRest t) : c ∈ t := by
  have hmem := List.mem_reverse.mp (List.mem_filter.mp h).1
  exact List.mem_reverse.mp ((List.dropWhile_suffix _).subset hmem)

/-- A text that continues an origin: nothing, or a path. -/
def StartsPath (t : List Char) : Prop :=
  ∀ c ∈ t.head?, c = '/' ∨ c = '\\'

theorem StartsPath.normalizeRest (h : StartsPath t) : StartsPath (normalizeRest t) := by
  cases t with
  | nil => exact h
  | cons c r =>
      have hc : c = '/' ∨ c = '\\' := h c rfl
      have hvisible : ∀ x ∈ [c], 0x20 < x.toNat := by
        refine List.forall_mem_singleton.mpr ?_
        rcases hc with rfl | rfl <;> decide
      have hrest : Url.normalizeRest (c :: r) = c :: Url.normalizeRest r :=
        normalizeRest_append hvisible r
      intro x hx
      rw [hrest, List.head?_cons, Option.mem_some_iff] at hx
      exact hx ▸ hc

/-! ### The site -/

def loopbackServer (port : UInt16) : Authority :=
  ⟨[], [], .ipv4 0x7F000001, some port.toNat⟩

/-- Who answers for a URL of the server: the default port counts as none. -/
def loopbackAuthority (port : UInt16) : Authority :=
  { loopbackServer port with port := if port = 80 then none else some port.toNat }

def loopback (port : UInt16) : String :=
  "http://127.0.0.1:" ++ toString port.toNat

/-- As long as no port is the default one, the address of the server is in its normal form. -/
theorem loopbackServer_normal (port : UInt16) : (loopbackServer port).Normal none where
  username := List.forall_mem_nil _
  password := List.forall_mem_nil _
  host := Host.normal_ipv4 (by decide)
  port := fun p hp => by
    obtain rfl : port.toNat = p := Option.some.inj hp
    exact ⟨port.toNat_lt, Option.some_ne_none _⟩

theorem readPort_loopback (port : UInt16) :
    readPort (some 80) (Nat.toDigits 10 port.toNat) = .ok ((loopbackAuthority port).port, []) := by
  by_cases hport : port = 80
  · subst hport
    cbv
  · have hdefault : some port.toNat ≠ some 80 :=
      fun h => hport (UInt16.toNat_inj.mp (Option.some.inj h))
    rw [readPort_toDigits port.toNat_lt hdefault, loopbackAuthority, if_neg hport]

/-- The server is read from the text of its address, whatever its port is. -/
theorem readAuthority_loopbackServer (port : UInt16) (followed : Bool) :
    readAuthority (.special (some 80)) followed (loopbackServer port).print =
      .ok (loopbackAuthority port, []) := by
  have hnormal := loopbackServer_normal port
  obtain ⟨userinfo, huser, hread⟩ := hnormal.splitUserinfo_print
  have hsplit := hnormal.host.split (portText (loopbackServer port).port) fun c hc => by
    simpa [loopbackServer, portText, eq_comm] using hc
  have hhost : readHostText (.special (some 80)) (loopbackServer port).host.print =
      .ok (loopbackServer port).host := by
    simp only [readHostText, Kind.isSpecial, if_true, if_neg hnormal.host.ne_nil,
      hnormal.host.reads]
  have hport : readPortText (.special (some 80)) (portText (loopbackServer port).port) =
      .ok ((loopbackAuthority port).port, []) := readPort_loopback port
  rw [readAuthority_of_parts huser hsplit,
    if_neg fun hlone => by simp [hnormal.host.ne_nil] at hlone, hhost, hread]
  simp only [bind, Except.bind, hport, hnormal.host.isEmpty_eq]
  rfl

/-- The site of the server, from a text that goes on like a path. -/
theorem readNetwork_loopback (port : UInt16) (followed : Bool) (h : StartsPath t) :
    readNetwork (.special (some 80)) followed ((loopbackServer port).print ++ t) =
      .ok (.hierarchical (some (loopbackAuthority port)) (readPath (.special (some 80)) t)) := by
  have hinside : ∀ c ∈ (loopbackServer port).print, (!endsAuthority true c) = true := fun c hc => by
    have hc := ((loopbackServer_normal port).chars c hc).2
    simp only [List.mem_cons, List.not_mem_nil, or_false, not_or] at hc
    simp [endsAuthority, hc]
  have hends : t.takeWhile (fun c => !endsAuthority true c) = [] ∧
      t.dropWhile (fun c => !endsAuthority true c) = t := by
    cases t with
    | nil => exact ⟨rfl, rfl⟩
    | cons c r => rcases h c rfl with rfl | rfl <;> exact ⟨rfl, rfl⟩
  have htake : ((loopbackServer port).print ++ t).takeWhile (fun c => !endsAuthority true c) =
      (loopbackServer port).print := by
    rw [List.takeWhile_append_of_pos hinside, hends.1, List.append_nil]
  have hdrop : ((loopbackServer port).print ++ t).dropWhile
      (fun c => !endsAuthority true c) = t := by
    rw [List.dropWhile_append_of_pos hinside, hends.2]
  simp only [readNetwork, Kind.isSpecial, htake, hdrop, readAuthority_loopbackServer, bind,
    Except.bind, List.nil_append]
  rfl

theorem toList_loopback (port : UInt16) : (loopback port).toList =
    "http".toList ++ ':' :: '/' :: '/' :: (loopbackServer port).print := by
  have hfront : "http://127.0.0.1:".toList =
      ("http".toList ++ ':' :: '/' :: '/' :: Ipv4.print 0x7F000001) ++ [':'] := by decide +kernel
  have hserver : (loopbackServer port).print =
      Ipv4.print 0x7F000001 ++ ':' :: Nat.toDigits 10 port.toNat := Authority.print_eq _
  have hport : (toString port.toNat).toList = Nat.toDigits 10 port.toNat := String.toList_ofList
  rw [hserver, loopback, String.toList_append, hport, hfront, List.append_assoc, List.append_assoc]
  exact congrArg _ rfl

theorem ofChars_loopback {body : List Char} {query : Option (List Char)}
    (hinput : normalizeInput ((loopback port).toList ++ t) =
      (loopback port).toList ++ (body ++ printOptional '?' query))
    (hstart : StartsPath body) (hbody : '?' ∉ body ∧ '#' ∉ body) (hquery : ∀ q ∈ query, '#' ∉ q) :
    ofChars ((loopback port).toList ++ t) = .ok {
      scheme := "http".toList
      location := .hierarchical (some (loopbackAuthority port)) (readPath (.special (some 80)) body)
      query := query.map (percentEncode (inQuerySet true))
      fragment := none } := by
  have hkind : Kind.ofScheme "http".toList = .special (some 80) := rfl
  have hnetwork (followed : Bool) := readNetwork_loopback port followed hstart
  have hne : (loopbackServer port).print ≠ [] := by
    simp [Authority.print_eq, (loopbackServer_normal port).host.ne_nil]
  have hserver (c : Char) (hc : c ∈ ['/', '?', '#', '\\']) : c ∉ (loopbackServer port).print :=
    fun hmem => ((loopbackServer_normal port).chars c hmem).2 hc
  rw [toList_loopback] at hinput ⊢
  generalize (loopbackServer port).print = server at hinput hnetwork hne hserver ⊢
  have hfree : '?' ∉ '/' :: '/' :: (server ++ body) ∧ '#' ∉ '/' :: '/' :: (server ++ body) := by
    simp [hserver, hbody]
  have hslashes : ('/' :: '/' :: (server ++ body)).dropWhile (fun c => c == '/' || c == '\\') =
      server ++ body := by
    obtain ⟨c, r, rfl⟩ := List.exists_cons_of_ne_nil hne
    have hslash : c ≠ '/' ∧ c ≠ '\\' :=
      ⟨fun h => hserver '/' (by simp) (by simp [h]), fun h => hserver '\\' (by simp) (by simp [h])⟩
    simp [hslash]
  have hscheme : splitScheme? (normalizeInput ("http".toList ++ ':' :: '/' :: '/' :: server ++ t)) =
      some ("http".toList, '/' :: '/' :: (server ++ body) ++ printOptional '?' query ++
        printOptional '#' none) := by
    rw [hinput]
    simpa [printOptional] using splitScheme?_of_special hkind
      ('/' :: '/' :: (server ++ (body ++ printOptional '?' query)))
  rw [ofChars_of_splitScheme hscheme, splitTail_append hfree hquery, hkind]
  simp only [readLocation, hslashes, hnetwork, bind, Except.bind, Kind.isSpecial, Option.map_none]

/-! ### URLs on the site -/

/-- A URL on the site of the server, without query and fragment. -/
structure OnLoopback (port : UInt16) (path : List Segment) (u : Url) : Prop where
  normal : Normal (some 80) (loopbackAuthority port) path u
  scheme : u.scheme = "http".toList
  query : u.query = none
  fragment : u.fragment = none

variable {path : List Segment} {u : Url}

theorem Normal.authority?_eq {defaultPort : Option ℕ} {a : Authority}
    (h : Normal defaultPort a path u) : u.authority? = some a := by
  rw [authority?, h.location]

theorem visible_loopback (port : UInt16) : ∀ c ∈ (loopback port).toList, 0x20 < c.toNat := by
  have hserver : ∀ c ∈ (loopbackServer port).print, 0x20 < c.toNat :=
    fun c hc => ((loopbackServer_normal port).chars c hc).1
  rw [toList_loopback, List.forall_mem_append, List.forall_mem_cons, List.forall_mem_cons,
    List.forall_mem_cons]
  exact ⟨by simp, by decide, by decide, by decide, hserver⟩

/-- A text that continues the origin like a path, without marks of a query or a fragment. -/
theorem exists_onLoopback (port : UInt16) {rest : String} (hstart : StartsPath rest.toList)
    (hfree : '?' ∉ rest.toList ∧ '#' ∉ rest.toList) :
    ∃ u path, ofText (loopback port ++ rest) = .ok u ∧ OnLoopback port path u := by
  have hne : (loopback port).toList ≠ [] := by
    rw [toList_loopback]
    exact List.append_ne_nil_of_right_ne_nil _ (List.cons_ne_nil _ _)
  have hrest : '?' ∉ normalizeRest rest.toList ∧ '#' ∉ normalizeRest rest.toList :=
    ⟨fun h => hfree.1 (mem_of_mem_normalizeRest h), fun h => hfree.2 (mem_of_mem_normalizeRest h)⟩
  have hinput : normalizeInput ((loopback port).toList ++ rest.toList) =
      (loopback port).toList ++ (normalizeRest rest.toList ++ printOptional '?' none) := by
    rw [normalizeInput_append hne (visible_loopback port), printOptional, List.append_nil]
  have hread := ofChars_loopback hinput hstart.normalizeRest hrest (by simp)
  obtain ⟨a, path, hnormal⟩ : ∃ a path, Normal (some 80) a path _ :=
    exists_normal_of_ofChars hread rfl
  obtain ⟨rfl, rfl⟩ : a = loopbackAuthority port ∧ path = _ := by
    simpa using hnormal.location.symm
  exact ⟨_, _, by rwa [ofText, String.toList_append], hnormal, rfl, rfl, rfl⟩

theorem exists_onLoopback_origin (port : UInt16) :
    ∃ u path, ofText (loopback port) = .ok u ∧ OnLoopback port path u := by
  have hstart : StartsPath "".toList := by simp [StartsPath]
  simpa using exists_onLoopback port hstart ⟨List.not_mem_nil, List.not_mem_nil⟩

/-- What is below a URL on the site is on the site, too. -/
theorem OnLoopback.of_below {v : Url} {text : String}
    (h : OnLoopback port path u) (hbelow : u.Below v)
    (hv : ofText text = .ok v) : ∃ path', OnLoopback port path' v := by
  have hscheme : v.scheme = "http".toList := by rw [hbelow.scheme, h.scheme]
  have hkind : v.kind = .special (some 80) := by
    rw [kind, hscheme]
    rfl
  obtain ⟨a, path', hnormal⟩ := exists_normal_of_ofChars hv hkind
  obtain rfl : a = loopbackAuthority port := by
    have hauthority := hbelow.authority
    rw [hnormal.authority?_eq, h.normal.authority?_eq] at hauthority
    exact Option.some.inj hauthority
  exact ⟨path', hnormal, hscheme, by rw [hbelow.query, h.query],
    by rw [hbelow.fragment, h.fragment]⟩

/-- Pairs go into the query of a URL, which needs no further coding then. -/
theorem OnLoopback.withPairs (h : OnLoopback port path u) (pairs : List (List Char × List Char)) :
    u.withPairs pairs = { u with query := if pairs.isEmpty then none else some (formPairs pairs) } ∧
      Normal (some 80) (loopbackAuthority port) path (u.withPairs pairs) := by
  have hpairs : u.withPairs pairs =
      { u with query := if pairs.isEmpty then none else some (formPairs pairs) } := by
    cases pairs with
    | nil => simp [Url.withPairs, ← h.query]
    | cons pair pairs => simp [Url.withPairs, appendPairs, h.query]
  refine ⟨hpairs, ?_⟩
  rw [hpairs]
  refine { h.normal with query := fun q hq => ?_ }
  cases pairs with
  | nil => cases hq
  | cons pair pairs =>
      obtain rfl : formPairs (pair :: pairs) = q := Option.some.inj hq
      exact plain_formPairs _

/-- Where the server is asked for a target, it is asked for the URL with its pairs. -/
theorem OnLoopback.ofText_target (h : OnLoopback port path u)
    (pairs : List (List Char × List Char)) :
    ofText (loopback port ++ Http.targetOf (u.withPairs pairs)) = .ok (u.withPairs pairs) := by
  obtain ⟨hpairs, hnormal⟩ := h.withPairs pairs
  generalize u.withPairs pairs = v at hpairs hnormal ⊢
  have hscheme : v.scheme = "http".toList := by rw [hpairs, ← h.scheme]
  have hfragment : v.fragment = none := by rw [hpairs, ← h.fragment]
  obtain ⟨first, segments, hpath⟩ := List.exists_cons_of_ne_nil hnormal.path_ne_nil
  have htarget : Http.targetOf v =
      String.ofList (Path.print path ++ printOptional '?' v.query) := by
    simp [Http.targetOf, hnormal.location, hpath]
  have hchars := Path.print_chars hnormal.segments
  have hvisible : ∀ c ∈ Path.print path ++ printOptional '?' v.query, 0x20 < c.toNat := by
    refine List.forall_mem_append.mpr ⟨fun c hc => (hchars c hc).1, fun c hc => ?_⟩
    exact hnormal.visible c (by simp [print, hc])
  have hread := ofChars_loopback
    (normalizeInput_of_visible (List.forall_mem_append.mpr ⟨visible_loopback port, hvisible⟩))
    (by simp [StartsPath, hpath, Path.print])
    ⟨fun hc => (hchars _ hc).2.1 rfl, fun hc => (hchars _ hc).2.2 rfl⟩
    (fun q hq => (hnormal.query q hq).notMem (by cbv))
  have hquery : v.query.map (percentEncode (inQuerySet true)) = v.query := by
    cases hq : v.query with
    | none => rfl
    | some q => exact congrArg some (percentEncode_of_plain (hnormal.query q hq))
  rw [readPath_print hnormal.path_ne_nil hnormal.segments, hquery] at hread
  rw [ofText, String.toList_append, htarget, String.toList_ofList, hread]
  have hlocation := hnormal.location
  obtain ⟨scheme, location, query, fragment⟩ := v
  simp only at hscheme hfragment hlocation
  rw [hscheme, hfragment, hlocation]

end EpisodeGuide.Url
