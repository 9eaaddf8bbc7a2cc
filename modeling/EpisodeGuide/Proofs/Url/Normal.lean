import EpisodeGuide.Proofs.Url.Authority

/-! # Normal forms of special URLs

A special URL that is read is in its normal form, and stays so when texts are put behind its path.
The text of a URL in normal form is read as that URL. -/

namespace EpisodeGuide.Url

variable {port : Option ℕ} {path segments : List Segment} {s t text : List Char}

/-! ### Segments -/

/-- A segment as it stands in the path of a special URL. -/
structure NormalSegment (s : Segment) : Prop where
  plain : Plain inPathSet s
  whole : ∀ c ∈ s, c ≠ '/' ∧ c ≠ '\\'
  singleDot : isSingleDot s = false
  doubleDot : isDoubleDot s = false

theorem normalSegment_nil : NormalSegment [] :=
  ⟨List.forall_mem_nil _, List.forall_mem_nil _, rfl, rfl⟩

theorem whole_percentEncode {set : Char → Bool}
    (h : ∀ c ∈ s, set c = false → c ≠ '/' ∧ c ≠ '\\') :
    ∀ c ∈ percentEncode set s, c ≠ '/' ∧ c ≠ '\\' := by
  intro c hc
  rcases mem_percentEncode hc with ⟨hmem, -, hset⟩ | hcode
  · exact h c hmem hset
  · have hall : ∀ c ∈ codeChars, c ≠ '/' ∧ c ≠ '\\' := by simp [codeChars]
    exact hall c hcode

theorem isSeparator_iff {c : Char} :
    Path.isSeparator (.special port) c = false ↔ c ≠ '/' ∧ c ≠ '\\' := by
  simp [Path.isSeparator, Kind.isSpecial]

namespace Path

theorem normal_add {last : Bool} (hpath : ∀ s ∈ path, NormalSegment s) (hplain : Plain inPathSet t)
    (hwhole : ∀ c ∈ t, c ≠ '/' ∧ c ≠ '\\') :
    ∀ s ∈ add (.special port) last path t, NormalSegment s := by
  have hpop : ∀ s ∈ popSegment path, NormalSegment s :=
    fun s hs => hpath s (mem_of_mem_popSegment hs)
  have hempty : ∀ s ∈ [[]], NormalSegment s := List.forall_mem_singleton.mpr normalSegment_nil
  unfold add
  split
  · split
    · exact List.forall_mem_append.mpr ⟨hpop, hempty⟩
    · exact hpop
  · next hdouble =>
    split
    · split
      · exact List.forall_mem_append.mpr ⟨hpath, hempty⟩
      · exact hpath
    · next hsingle =>
      refine List.forall_mem_append.mpr ⟨hpath, List.forall_mem_singleton.mpr ?_⟩
      exact ⟨hplain, hwhole, by simpa using hsingle, by simpa using hdouble⟩

theorem normal_build (hpath : ∀ s ∈ path, NormalSegment s)
    (hsegments : ∀ s ∈ segments, Plain inPathSet s ∧ ∀ c ∈ s, c ≠ '/' ∧ c ≠ '\\') :
    ∀ s ∈ build (.special port) path segments, NormalSegment s := by
  fun_induction build (.special port) path segments with
  | case1 path => exact hpath
  | case2 path t =>
      obtain ⟨hplain, hwhole⟩ := hsegments t (by simp)
      exact normal_add hpath hplain hwhole
  | case3 path t u rest ih =>
      obtain ⟨⟨hplain, hwhole⟩, hrest⟩ := List.forall_mem_cons.mp hsegments
      exact ih (normal_add hpath hplain hwhole) hrest

theorem normal_ofText (text : List Char) : ∀ s ∈ ofText (.special port) text, NormalSegment s := by
  refine normal_build (List.forall_mem_nil _) fun s hs => ?_
  obtain ⟨piece, hpiece, rfl⟩ := List.mem_map.mp hs
  have hfree := forall_mem_splitOnP _ text piece hpiece
  exact ⟨plain_path piece, whole_percentEncode fun c hc _ => isSeparator_iff.mp (hfree c hc)⟩

/-- Whatever text is put behind a path, its segments stay in their normal form. -/
theorem normal_push (hpath : ∀ s ∈ path, NormalSegment s) (text : List Char) :
    ∀ s ∈ push (.special port) path text, NormalSegment s := by
  unfold push
  split
  · exact hpath
  · change ∀ s ∈ add (.special port) true (base path) _, NormalSegment s
    refine normal_add (fun s hs => hpath s (mem_of_mem_base hs)) (plain_segment _ _)
      (whole_percentEncode fun c _ hc => ?_)
    simp only [inSegmentSet, Kind.isSpecial, Bool.true_and, Bool.or_eq_false_iff,
      beq_eq_false_iff_ne] at hc
    exact ⟨hc.1.1.2, hc.2⟩

theorem normal_foldl_push (hpath : ∀ s ∈ path, NormalSegment s) (texts : List (List Char)) :
    ∀ s ∈ texts.foldl (push (.special port)) path, NormalSegment s := by
  induction texts generalizing path with
  | nil => exact hpath
  | cons text texts ih => exact ih (normal_push hpath text)

theorem add_last_ne_nil : add (.special port) true path t ≠ [] := by
  unfold add
  split
  · simp
  · split <;> simp

theorem build_ne_nil (h : segments ≠ []) : build (.special port) path segments ≠ [] := by
  fun_induction build (.special port) path segments with
  | case1 path => exact (h rfl).elim
  | case2 path t => exact add_last_ne_nil
  | case3 path t u rest ih => exact ih (List.cons_ne_nil _ _)

/-- Segments in their normal form are added as they are. -/
theorem build_of_normal (h : ∀ s ∈ segments, NormalSegment s) :
    build (.special port) path segments = path ++ segments := by
  have hadd {last : Bool} (path : List Segment) {t : Segment} (ht : NormalSegment t) :
      add (.special port) last path t = path ++ [t] := by
    simp [add, ht.singleDot, ht.doubleDot]
  fun_induction build (.special port) path segments with
  | case1 path => simp
  | case2 path t => exact hadd path (h t (by simp))
  | case3 path t u rest ih =>
      obtain ⟨ht, hrest⟩ := List.forall_mem_cons.mp h
      rw [hadd path ht] at ih ⊢
      rw [ih hrest, List.append_assoc, List.singleton_append]

end Path

theorem normal_readPath (text : List Char) :
    ∀ s ∈ readPath (.special port) text, NormalSegment s := by
  cases text with
  | nil => exact List.forall_mem_singleton.mpr normalSegment_nil
  | cons c text => exact Path.normal_ofText _

theorem readPath_ne_nil (text : List Char) : readPath (.special port) text ≠ [] := by
  cases text with
  | nil => exact List.cons_ne_nil _ _
  | cons c text =>
      refine Path.build_ne_nil fun h => ?_
      rw [List.map_eq_nil_iff] at h
      exact List.splitOnP_ne_nil _ _ h

/-- The text of a path is read as that path. -/
theorem readPath_print (hne : path ≠ []) (h : ∀ s ∈ path, NormalSegment s) :
    readPath (.special port) (Path.print path) = path := by
  obtain ⟨first, rest, rfl⟩ := List.exists_cons_of_ne_nil hne
  have hwhole : ∀ s ∈ first :: rest, ∀ c ∈ s, Path.isSeparator (.special port) c = false :=
    fun s hs c hc => isSeparator_iff.mpr ((h s hs).whole c hc)
  obtain ⟨hfirst, hrest⟩ := List.forall_mem_cons.mp hwhole
  have hsplit : Path.split (.special port) (first ++ Path.print rest) = first :: rest :=
    Path.splitOnP_append_print (by rfl) hrest hfirst
  have hcoded : (first :: rest).map (percentEncode inPathSet) = first :: rest :=
    (List.map_congr_left fun s hs => percentEncode_of_plain (h s hs).plain).trans (List.map_id' _)
  have hprint : Path.print (first :: rest) = '/' :: (first ++ Path.print rest) := by
    simp [Path.print]
  rw [hprint]
  change Path.ofText (.special port) (first ++ Path.print rest) = _
  rw [Path.ofText, hsplit, hcoded, Path.build_of_normal h, List.nil_append]

/-! ### The text between scheme and query -/

/-- The characters of an authority are visible, and none ends it. -/
theorem Authority.Normal.chars {a : Authority} (h : a.Normal port) :
    ∀ c ∈ a.print, 0x20 < c.toNat ∧ c ∉ ['/', '?', '#', '\\'] := by
  have hplain {s : List Char} (hs : Plain inUserinfoSet s) :
      ∀ c ∈ s, 0x20 < c.toNat ∧ c ∉ ['/', '?', '#', '\\'] := fun c hc => by
    refine ⟨hs.visible (fun c => isControl_of_inUserinfoSet) (by cbv) c hc, fun hmem => ?_⟩
    simp only [List.mem_cons, List.not_mem_nil, or_false] at hmem
    rcases hmem with rfl | rfl | rfl | rfl <;> exact hs.notMem (by cbv) hc
  have hhost : ∀ c ∈ a.host.print, 0x20 < c.toNat ∧ c ∉ ['/', '?', '#', '\\'] := fun c hc => by
    obtain ⟨hvisible, hfree⟩ := h.host.chars c hc
    refine ⟨hvisible, fun hmem => hfree ?_⟩
    simp only [List.mem_cons, List.not_mem_nil, or_false] at hmem ⊢
    tauto
  have hport : ∀ c ∈ portText a.port, 0x20 < c.toNat ∧ c ∉ ['/', '?', '#', '\\'] := fun c hc => by
    cases hport : a.port with
    | none => simp [hport, portText] at hc
    | some p =>
        rw [hport, portText, List.mem_cons] at hc
        rcases hc with rfl | hc
        · decide
        · obtain ⟨d, hd, rfl⟩ := Text.exists_of_mem_toDigits (by decide) hc
          clear hc
          decide +revert
  rw [Authority.print_eq, Authority.userinfo, List.forall_mem_append, List.forall_mem_append]
  refine ⟨?_, hhost, hport⟩
  split
  · exact List.forall_mem_nil _
  · rw [List.forall_mem_append, List.forall_mem_append, List.forall_mem_singleton]
    refine ⟨⟨hplain h.username, ?_⟩, by decide⟩
    split
    · exact List.forall_mem_nil _
    · exact List.forall_mem_cons.mpr ⟨by decide, hplain h.password⟩

/-- The characters of a path are visible, and none ends it. -/
theorem Path.print_chars (h : ∀ s ∈ path, NormalSegment s) :
    ∀ c ∈ Path.print path, 0x20 < c.toNat ∧ c ≠ '?' ∧ c ≠ '#' := by
  intro c hc
  obtain ⟨s, hs, hc⟩ := List.mem_flatMap.mp hc
  rcases List.mem_cons.mp hc with rfl | hc
  · decide
  · have hplain := (h s hs).plain
    exact ⟨hplain.visible (fun c => isControl_of_inPathSet) (by cbv) c hc,
      fun h => hplain.notMem (by cbv) (h ▸ hc), fun h => hplain.notMem (by cbv) (h ▸ hc)⟩

/-- The location of a special URL is read from its text. -/
theorem readLocation_print {a : Authority} {followed : Bool} (ha : a.Normal port) (hne : path ≠ [])
    (hpath : ∀ s ∈ path, NormalSegment s) :
    readLocation (.special port) followed (Location.hierarchical (some a) path).print =
      .ok (.hierarchical (some a) path) := by
  have hslashes : (Location.hierarchical (some a) path).print.dropWhile
      (fun c => c == '/' || c == '\\') = a.print ++ Path.print path := by
    have hfull : a.print ≠ [] := by simp [Authority.print_eq, ha.host.ne_nil]
    obtain ⟨c, r, hprint⟩ := List.exists_cons_of_ne_nil hfull
    have hc := (ha.chars c (by simp [hprint])).2
    simp only [List.mem_cons, List.not_mem_nil, or_false, not_or] at hc
    simp [Location.print, hprint, hc]
  have hends : ∀ c ∈ a.print, (!endsAuthority true c) = true := fun c hc => by
    have hc := (ha.chars c hc).2
    simp only [List.mem_cons, List.not_mem_nil, or_false, not_or] at hc
    simp [endsAuthority, hc]
  obtain ⟨first, rest, rfl⟩ := List.exists_cons_of_ne_nil hne
  have htext : (a.print ++ Path.print (first :: rest)).takeWhile (fun c => !endsAuthority true c) =
      a.print := by
    rw [List.takeWhile_append_of_pos hends]
    simp [Path.print, endsAuthority]
  have hrest : (a.print ++ Path.print (first :: rest)).dropWhile (fun c => !endsAuthority true c) =
      Path.print (first :: rest) := by
    rw [List.dropWhile_append_of_pos hends]
    simp [Path.print, endsAuthority]
  rw [readLocation, hslashes]
  simp only [readNetwork, Kind.isSpecial, htext, hrest, ha.readAuthority_print, bind, Except.bind,
    List.nil_append, readPath_print hne hpath]
  rfl

/-! ### Query and fragment -/

/-- Query and fragment are split off at their marks. -/
theorem splitTail_append {body : List Char} {query fragment : Option (List Char)}
    (hbody : '?' ∉ body ∧ '#' ∉ body) (hquery : ∀ q ∈ query, '#' ∉ q) :
    splitTail (body ++ printOptional '?' query ++ printOptional '#' fragment) =
      (body, query, fragment) := by
  have hbefore : '#' ∉ body ++ printOptional '?' query := by
    rw [List.mem_append, not_or]
    refine ⟨hbody.2, ?_⟩
    cases query with
    | none => exact List.not_mem_nil
    | some q => simp [printOptional, hquery q rfl]
  have hmark {c : Char} (part : Option (List Char)) :
      ∀ x ∈ (printOptional c part).head?, x = c := by
    cases part <;> simp [printOptional, eq_comm]
  obtain ⟨htake, hdrop⟩ := takeWhile_ne_append hbefore (hmark fragment)
  obtain ⟨htake', hdrop'⟩ := takeWhile_ne_append hbody.1 (hmark query)
  simp only [splitTail, htake, hdrop, htake', hdrop']
  cases query <;> cases fragment <;> rfl

/-! ### Whole URLs -/

/-- A text of visible characters is read as it is. -/
theorem normalizeInput_of_visible (h : ∀ c ∈ s, 0x20 < c.toNat) : normalizeInput s = s := by
  have hdrop {t : List Char} (ht : ∀ c ∈ t, 0x20 < c.toNat) : t.dropWhile isPadding = t := by
    cases t with
    | nil => rfl
    | cons c t =>
        have hc := ht c (by simp)
        exact List.dropWhile_cons_of_neg (by simpa [isPadding] using hc)
  have hreverse : ∀ c ∈ s.reverse, 0x20 < c.toNat := fun c hc => h c (List.mem_reverse.mp hc)
  rw [normalizeInput, hdrop h, hdrop hreverse, List.reverse_reverse, List.filter_eq_self]
  intro c hc
  have hc := h c hc
  simp only [Path.isIgnored, Bool.not_eq_true', Bool.or_eq_false_iff, beq_eq_false_iff_ne]
  refine ⟨⟨?_, ?_⟩, ?_⟩ <;> rintro rfl <;> revert hc <;> decide

/-- A special URL in its normal form. -/
structure Normal (port : Option ℕ) (a : Authority) (path : List Segment) (u : Url) : Prop where
  kind : u.kind = .special port
  location : u.location = .hierarchical (some a) path
  authority : a.Normal port
  path_ne_nil : path ≠ []
  segments : ∀ s ∈ path, NormalSegment s
  query : ∀ q ∈ u.query, Plain (inQuerySet true) q
  fragment : ∀ f ∈ u.fragment, Plain inFragmentSet f

variable {a : Authority} {u : Url}

/-- A special URL that is read is in its normal form. -/
theorem exists_normal_of_ofChars (h : ofChars s = .ok u) (hkind : u.kind = .special port) :
    ∃ a path, Normal port a path u := by
  obtain ⟨rest, body, query, fragment, -, -, hlocation, hquery, hfragment⟩ := ofChars_eq_ok_iff.mp h
  rw [hkind] at hlocation hquery
  obtain ⟨⟨a, left⟩, hauthority, hpath⟩ := exists_of_bind hlocation
  have hpath := Except.ok.inj hpath
  refine ⟨a, _, hkind, hpath.symm, Authority.normal_of_readAuthority hauthority, readPath_ne_nil _,
    normal_readPath _, fun q hq => ?_, fun f hf => ?_⟩
  · rw [hquery] at hq
    obtain ⟨q', -, rfl⟩ := Option.map_eq_some_iff.mp hq
    exact plain_query q'
  · rw [hfragment] at hf
    obtain ⟨f', -, rfl⟩ := Option.map_eq_some_iff.mp hf
    exact plain_fragment f'

/-- With other segments in its path a URL is still in its normal form. -/
theorem Normal.withPath (h : Normal port a path u) {path' : List Segment} (hne : path' ≠ [])
    (hpath : ∀ s ∈ path', NormalSegment s) :
    Normal port a path' { u with location := .hierarchical (some a) path' } :=
  ⟨h.kind, rfl, h.authority, hne, hpath, h.query, h.fragment⟩

theorem eq_of_special (h : Kind.ofScheme s = .special port) :
    s = "http".toList ∨ s = "https".toList ∨ s = "ws".toList ∨ s = "wss".toList ∨
      s = "ftp".toList := by
  have hs (text : String) (htext : String.ofList s = text) : s = text.toList := by
    rw [← htext, String.toList_ofList]
  unfold Kind.ofScheme at h
  split at h
  case h_1 heq => exact .inl (hs _ heq)
  case h_2 heq => exact .inr (.inl (hs _ heq))
  case h_3 heq => exact .inr (.inr (.inl (hs _ heq)))
  case h_4 heq => exact .inr (.inr (.inr (.inl (hs _ heq))))
  case h_5 heq => exact .inr (.inr (.inr (.inr (hs _ heq))))
  all_goals cases h

theorem splitScheme?_of_special (h : Kind.ofScheme s = .special port) (rest : List Char) :
    splitScheme? (s ++ ':' :: rest) = some (s, rest) := by
  rcases eq_of_special h with rfl | rfl | rfl | rfl | rfl <;> rfl

/-- The characters between scheme and query are visible, and none ends that part. -/
theorem Normal.location_chars (h : Normal port a path u) :
    ∀ c ∈ u.location.print, 0x20 < c.toNat ∧ c ≠ '?' ∧ c ≠ '#' := by
  have hslash : 0x20 < '/'.toNat ∧ '/' ≠ '?' ∧ '/' ≠ '#' := by decide
  have hauthority : ∀ c ∈ a.print, 0x20 < c.toNat ∧ c ≠ '?' ∧ c ≠ '#' := fun c hc => by
    obtain ⟨hvisible, hfree⟩ := h.authority.chars c hc
    simp only [List.mem_cons, List.not_mem_nil, or_false, not_or] at hfree
    exact ⟨hvisible, hfree.2.1, hfree.2.2.1⟩
  rw [h.location]
  simp only [Location.print, List.cons_append, List.forall_mem_cons, List.forall_mem_append]
  exact ⟨hslash, hslash, hauthority, Path.print_chars h.segments⟩

theorem Normal.visible (h : Normal port a path u) : ∀ c ∈ u.print, 0x20 < c.toNat := by
  have hscheme : ∀ c ∈ u.scheme, 0x20 < c.toNat := by
    rcases eq_of_special h.kind with hs | hs | hs | hs | hs <;> rw [hs] <;> simp
  have hmark {mark : Char} {part : Option (List Char)} (hm : 0x20 < mark.toNat)
      (hpart : ∀ s ∈ part, ∀ c ∈ s, 0x20 < c.toNat) :
      ∀ c ∈ printOptional mark part, 0x20 < c.toNat := by
    cases part with
    | none => exact List.forall_mem_nil _
    | some s => exact List.forall_mem_cons.mpr ⟨hm, hpart s rfl⟩
  have hquery : ∀ c ∈ printOptional '?' u.query, 0x20 < c.toNat := hmark (by decide) fun q hq =>
    (h.query q hq).visible (fun c => isControl_of_inQuerySet) (by cbv)
  have hfragment : ∀ c ∈ printOptional '#' u.fragment, 0x20 < c.toNat :=
    hmark (by decide) fun f hf =>
      (h.fragment f hf).visible (fun c => isControl_of_inFragmentSet) (by cbv)
  simp only [print, List.forall_mem_append, List.forall_mem_cons]
  exact ⟨⟨⟨hscheme, by decide, fun c hc => (h.location_chars c hc).1⟩, hquery⟩, hfragment⟩

/-- The text of a URL in its normal form is read as that URL. -/
theorem Normal.ofChars_print (h : Normal port a path u) : ofChars u.print = .ok u := by
  have hprint : u.print = u.scheme ++ ':' ::
      (u.location.print ++ printOptional '?' u.query ++ printOptional '#' u.fragment) := by
    simp [print]
  have hfree : '?' ∉ u.location.print ∧ '#' ∉ u.location.print :=
    ⟨fun hc => (h.location_chars _ hc).2.1 rfl, fun hc => (h.location_chars _ hc).2.2 rfl⟩
  refine ofChars_eq_ok_iff.mpr ⟨_, u.location.print, u.query, u.fragment, ?_,
    splitTail_append hfree fun q hq => (h.query q hq).notMem (by cbv), ?_, ?_, ?_⟩
  · rw [normalizeInput_of_visible h.visible, hprint]
    exact splitScheme?_of_special h.kind _
  · rw [h.kind, h.location]
    exact readLocation_print h.authority h.path_ne_nil h.segments
  · rw [h.kind]
    cases hquery : u.query with
    | none => rfl
    | some q => exact congrArg some (percentEncode_of_plain (h.query q hquery)).symm
  · cases hfragment : u.fragment with
    | none => rfl
    | some f => exact congrArg some (percentEncode_of_plain (h.fragment f hfragment)).symm

end EpisodeGuide.Url
