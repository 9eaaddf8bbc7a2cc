import EpisodeGuide.Proofs.Url.Appending
import EpisodeGuide.Proofs.Url.Normal

/-! # A word behind the text of a URL

A slash and a word behind the text of a URL belong to its last part: to the fragment, else to the
query, and else to the path. Behind the path they read as a segment that is put there, unless the
text ends with a separator or with blanks. -/

namespace EpisodeGuide.Url

variable {kind : Kind} {s t : List Char}

/-! ### Authorities that are followed -/

/-- What stops a search in the middle of a text stops it in front of what is put behind it, too. -/
theorem takeWhile_dropWhile_append {p : Char → Bool} {c : Char} (hc : p c = false)
    (s t : List Char) : (s ++ c :: t).takeWhile p = s.takeWhile p ∧
      (s ++ c :: t).dropWhile p = s.dropWhile p ++ c :: t := by
  induction s with
  | nil => simp [hc]
  | cons d s ih => cases hd : p d <;> simp [hd, ih]

/-- Only a lone sign of user information depends on what follows an authority. -/
theorem readAuthority_followed (hs : s ≠ ['@']) (followed followed' : Bool) :
    readAuthority kind followed s = readAuthority kind followed' s := by
  rcases huser : splitUserinfo s with ⟨userinfo, rest⟩
  rcases hhost : splitHost false rest with ⟨hostText, portText⟩
  have hlone : ¬ (userinfo = some [] ∧ rest = []) := by
    rintro ⟨rfl, rfl⟩
    by_cases hat : '@' ∈ s
    · obtain ⟨y, x, hreverse, hy⟩ := List.eq_append_cons_of_mem (List.mem_reverse.mpr hat)
      have hsplit : s = x.reverse ++ '@' :: y.reverse := by
        rw [← List.reverse_reverse s, hreverse]
        simp
      rw [hsplit, splitUserinfo_append _ fun h => hy (List.mem_reverse.mp h)] at huser
      obtain ⟨hx, hy⟩ := Prod.mk.inj huser
      rw [Option.some.inj hx, hy] at hsplit
      exact hs hsplit
    · rw [splitUserinfo_of_notMem hat] at huser
      cases huser
  rw [readAuthority_of_parts huser hhost, readAuthority_of_parts huser hhost,
    if_neg fun h => hlone ⟨h.1, h.2.1⟩, if_neg fun h => hlone ⟨h.1, h.2.1⟩]

theorem mem_of_splitHost {inside : Bool} : ∀ c ∈ (splitHost inside s).2, c ∈ s := by
  induction s generalizing inside with
  | nil => simp [splitHost]
  | cons d s ih =>
      intro c hc
      unfold splitHost at hc
      split at hc
      · exact hc
      · exact List.mem_cons_of_mem _ (ih c hc)

theorem mem_of_splitUserinfo : ∀ c ∈ (splitUserinfo s).2, c ∈ s := by
  intro c hc
  unfold splitUserinfo at hc
  dsimp only at hc
  split at hc
  · exact hc
  · exact List.mem_reverse.mp ((List.takeWhile_prefix _).subset (List.mem_reverse.mp hc))

theorem mem_of_readPort {default : Option ℕ} {port : Option ℕ} {left : List Char}
    (h : readPort default s = .ok (port, left)) : ∀ c ∈ left, c ∈ s := by
  have hfinish {digits : List ℕ} {rest : List Char}
      (h : readPort.finish default digits rest = .ok (port, left)) : left = rest := by
    unfold readPort.finish at h
    dsimp only at h
    split at h
    · cases h
    · split at h <;> exact (Prod.mk.inj (Except.ok.inj h)).2.symm
  have hrest : ∀ c ∈ (Text.takeDigits s).2, c ∈ s :=
    fun c hc => (List.dropWhile_suffix _).subset hc
  unfold readPort at h
  dsimp only at h
  split at h
  · next heq =>
    split at h
    · rw [hfinish h]
      exact hrest
    · cases h
  · rw [hfinish h]
    exact hrest

theorem mem_of_readAuthority {followed : Bool} {a : Authority} {left : List Char}
    (h : readAuthority kind followed s = .ok (a, left)) : ∀ c ∈ left, c ∈ s := by
  rcases huser : splitUserinfo s with ⟨userinfo, rest⟩
  rcases hhost : splitHost false rest with ⟨hostText, portText⟩
  rw [readAuthority_of_parts huser hhost] at h
  split at h
  · cases h
  · obtain ⟨host, -, h⟩ := exists_of_bind h
    split at h
    · cases h
    · obtain ⟨⟨port, left'⟩, hport, h⟩ := exists_of_bind h
      split at h
      · cases h
      · obtain rfl := (Prod.mk.inj (Except.ok.inj h)).2
        intro c hc
        have hportText : ∀ d ∈ portText, d ∈ s := fun d hd => by
          refine mem_of_splitUserinfo d ?_
          rw [huser]
          exact mem_of_splitHost d (by rwa [hhost])
        cases portText with
        | nil =>
            obtain rfl := (Prod.mk.inj (Except.ok.inj hport)).2
            cases hc
        | cons d digits => exact hportText c (List.mem_cons_of_mem _ (mem_of_readPort hport c hc))

/-! ### Locations that are continued -/

section Locations

variable {authority : Option Authority} {path : List Segment}

theorem isSeparator_of_endsAuthority {c : Char} (h : endsAuthority kind.isSpecial c = false) :
    Path.isSeparator kind c = false := by
  simp only [endsAuthority, Bool.or_eq_false_iff] at h
  rw [Path.isSeparator, h.1.1.1, h.2]
  rfl

theorem readNetwork_append_login (hend : Path.EndsWithin kind s) (hat : s ≠ ['@'])
    (h : readNetwork kind false s = .ok (.hierarchical authority path))
    (hlone : path ≠ [[], []]) :
    readNetwork kind false (s ++ '/' :: login) =
      .ok (.hierarchical authority (Path.push kind (Path.dropEmptyLast path) login)) := by
  let inside (c : Char) : Bool := !endsAuthority kind.isSpecial c
  have hslash : inside '/' = false := by simp [inside, endsAuthority]
  obtain ⟨htake, hdrop⟩ := takeWhile_dropWhile_append hslash s login
  have hparts : s.takeWhile inside ++ s.dropWhile inside = s := List.takeWhile_append_dropWhile
  obtain ⟨⟨a, left⟩, hread, hl⟩ := exists_of_bind h
  obtain ⟨rfl, rfl⟩ := Location.hierarchical.inj (Except.ok.inj hl)
  have hfollowed : readAuthority kind true (s.takeWhile inside) = .ok (a, left) := by
    rw [← hread]
    by_cases hpath : s.dropWhile inside = []
    · rw [hpath, List.append_nil] at hparts
      exact readAuthority_followed (by rwa [hparts]) _ _
    · have hsome : (s.dropWhile inside).isEmpty = false := by simpa using hpath
      exact congrArg (fun b => readAuthority kind b (s.takeWhile inside)) (by rw [hsome]; rfl)
  have hwithin : Path.EndsWithin kind (left ++ s.dropWhile inside) := by
    by_cases hpath : s.dropWhile inside = []
    · intro c hc
      rw [hpath, List.append_nil] at hc
      have hmem := List.mem_takeWhile_imp
        (mem_of_readAuthority hread c (List.mem_of_getLast? hc))
      exact isSeparator_of_endsAuthority (by simpa using hmem)
    · exact .append left hpath (.of_append _ (by rwa [hparts]))
  have hnonempty : (s.dropWhile inside ++ '/' :: login).isEmpty = false := by simp
  simp only [readNetwork, inside] at htake hdrop hfollowed hwithin hnonempty hlone ⊢
  rw [htake, hdrop, hnonempty, Bool.not_false, Bool.or_true, hfollowed]
  simp only [bind, Except.bind, pure, Except.pure]
  rw [← List.append_assoc, readPath_append_login hwithin hlone]

theorem readOther_append_login (hend : Path.EndsWithin .other s) (hat : s ≠ "//@".toList)
    (h : readOther false s = .ok (.hierarchical authority path)) (hlone : path ≠ [[], []]) :
    readOther false (s ++ '/' :: login) =
      .ok (.hierarchical authority (Path.push .other (Path.dropEmptyLast path) login)) := by
  unfold readOther at h
  split at h
  · next rest =>
    have hrest : rest ≠ ['@'] := fun hrest => hat (by rw [hrest]; rfl)
    exact readNetwork_append_login (.of_append ['/', '/'] hend) hrest h hlone
  · next rest hnetwork =>
    obtain ⟨rfl, rfl⟩ := Location.hierarchical.inj (Except.ok.inj h)
    cases rest with
    | nil => exact absurd (hend '/' rfl) (by decide)
    | cons c r =>
        have hc : c ≠ '/' := fun heq => hnetwork r (by rw [heq])
        have hpath := Path.ofText_append_login (List.cons_ne_nil c r) (.of_append ['/'] hend) hlone
        simp only [Path.tidy, List.cons_append] at hpath
        simp [readOther, hc, hpath]
  · cases Except.ok.inj h

theorem localFile_append_login (hend : Path.EndsWithin .file s)
    (h : localFile s = .hierarchical authority path) :
    localFile (s ++ '/' :: login) =
      .hierarchical authority (Path.push .file (Path.dropEmptyLast path) login) := by
  obtain ⟨rfl, rfl⟩ := Location.hierarchical.inj h
  cases s with
  | nil => cbv
  | cons c r =>
      rw [localFile, Path.ofText_append_login (List.cons_ne_nil c r) hend (Path.tidy_file_ne _)]

/-- Whether a drive at the start of a path drops the host. -/
def dropsHost (pathText : List Char) : Bool :=
  (Path.ofText .file (pathText.drop 1)).head?.any isDriveLetter

theorem hostedFile_eq (host : Host) (pathText : List Char) : hostedFile host pathText =
    if dropsHost pathText then localFile (pathText.drop 1) else hostedFile.keep host pathText := by
  unfold hostedFile dropsHost
  cases (Path.ofText .file (pathText.drop 1)).head? <;> rfl

/-- A word behind a path does not make a drive of its first segment. -/
theorem dropsHost_append_login (hend : Path.EndsWithin .file s) :
    dropsHost (s ++ '/' :: login) = dropsHost s := by
  cases s with
  | nil => cbv
  | cons c r =>
      by_cases hr : r = []
      · rw [hr]
        cbv
      · change ((Path.ofText .file (r ++ '/' :: login)).head?.any isDriveLetter) =
          ((Path.ofText .file r).head?.any isDriveLetter)
        rcases Path.ofText_append_login_cases hr (.of_append [c] hend) with
          ⟨front, hpath, hlonger⟩ | ⟨front, t, -, hpath, hlonger⟩
        · rw [hpath, hlonger]
          cases front <;> rfl
        · rw [hpath, hlonger]
          cases front <;> rfl

theorem hostedFile_append_login {host : Host} (hend : Path.EndsWithin .file s)
    (h : hostedFile host s = .hierarchical authority path) :
    hostedFile host (s ++ '/' :: login) =
      .hierarchical authority (Path.push .file (Path.dropEmptyLast path) login) := by
  have hlone : readPath .file s ≠ [[], []] := by
    cases s with
    | nil => decide
    | cons c r => exact Path.tidy_file_ne _
  rw [hostedFile_eq] at h
  rw [hostedFile_eq, dropsHost_append_login hend]
  split
  · next hdrive =>
    rw [if_pos hdrive] at h
    cases s with
    | nil =>
        have hnone : dropsHost [] = false := by cbv
        rw [hnone] at hdrive
        cases hdrive
    | cons c r => exact localFile_append_login (.of_append [c] hend) h
  · next hdrive =>
    rw [if_neg hdrive] at h
    obtain ⟨rfl, rfl⟩ := Location.hierarchical.inj h
    rw [hostedFile.keep, readPath_append_login hend hlone]

def readHosted (s : List Char) : Except UrlError Location :=
  let hostText := s.takeWhile fun c => !Path.isSeparator .file c
  let pathText := s.dropWhile fun c => !Path.isSeparator .file c
  if isDriveLetter hostText then .ok (localFile s)
  else if hostText = [] then .ok (localFile pathText)
  else
    (readHost hostText).map fun host =>
      if host = .domain "localhost".toList then localFile pathText
      else hostedFile host pathText

theorem readFile_cons_cons (a b : Char) (rest : List Char) : readFile (a :: b :: rest) =
    if Path.isSeparator .file a && Path.isSeparator .file b then readHosted rest
    else if Path.isSeparator .file a then .ok (localFile (b :: rest))
    else .ok (localFile (a :: b :: rest)) :=
  rfl

theorem readHosted_append_login (hend : Path.EndsWithin .file s)
    (h : readHosted s = .ok (.hierarchical authority path)) :
    readHosted (s ++ '/' :: login) =
      .ok (.hierarchical authority (Path.push .file (Path.dropEmptyLast path) login)) := by
  let inside (c : Char) : Bool := !Path.isSeparator .file c
  obtain ⟨htake, hdrop⟩ := takeWhile_dropWhile_append (by rfl : inside '/' = false) s login
  have hpath : Path.EndsWithin .file (s.dropWhile inside) :=
    .of_append (s.takeWhile inside) (by rwa [List.takeWhile_append_dropWhile])
  simp only [readHosted, inside] at h htake hdrop hpath ⊢
  rw [htake, hdrop]
  split at h
  · next hdrive => rw [if_pos hdrive, localFile_append_login hend (Except.ok.inj h)]
  · next hdrive =>
    rw [if_neg hdrive]
    split at h
    · next hhost => rw [if_pos hhost, localFile_append_login hpath (Except.ok.inj h)]
    · next hhost =>
      rw [if_neg hhost]
      cases hread : readHost (s.takeWhile fun c => !Path.isSeparator .file c) with
      | error e =>
          rw [hread] at h
          cases h
      | ok host =>
          rw [hread] at h
          have h := Except.ok.inj h
          refine congrArg Except.ok ?_
          dsimp only at h ⊢
          split at h
          · next hlocal => rw [if_pos hlocal, localFile_append_login hpath h]
          · next hlocal => rw [if_neg hlocal, hostedFile_append_login hpath h]

/-- Behind a file, of this machine or of another. -/
theorem readFile_append_login (hend : Path.EndsWithin .file s)
    (h : readFile s = .ok (.hierarchical authority path)) :
    readFile (s ++ '/' :: login) =
      .ok (.hierarchical authority (Path.push .file (Path.dropEmptyLast path) login)) := by
  cases s with
  | nil =>
      obtain ⟨rfl, rfl⟩ := Location.hierarchical.inj (Except.ok.inj h)
      cbv
  | cons a r =>
      cases r with
      | nil =>
          have ha : Path.isSeparator .file a = false := hend a rfl
          have h : localFile (if Path.isSeparator .file a then [] else [a]) =
            .hierarchical authority path := Except.ok.inj h
          rw [ha] at h
          rw [List.singleton_append, readFile_cons_cons, ha]
          exact congrArg Except.ok (localFile_append_login hend h)
      | cons b rest =>
          rw [readFile_cons_cons] at h
          rw [List.cons_append, List.cons_append, readFile_cons_cons]
          split at h
          · next hboth =>
            rw [if_pos hboth]
            exact readHosted_append_login (.of_append [a, b] hend) h
          · next hboth =>
            rw [if_neg hboth]
            split at h
            · next ha =>
              rw [if_pos ha]
              exact congrArg Except.ok
                (localFile_append_login (.of_append [a] hend) (Except.ok.inj h))
            · next ha =>
              rw [if_neg ha]
              exact congrArg Except.ok (localFile_append_login hend (Except.ok.inj h))

/-- A word behind a text that ends within its path is a word behind the path that is read. -/
theorem readLocation_append_login (hend : Path.EndsWithin kind s) (hat : s ≠ "//@".toList)
    (h : readLocation kind false s = .ok (.hierarchical authority path))
    (hlone : path ≠ [[], []]) :
    readLocation kind false (s ++ '/' :: login) =
      .ok (.hierarchical authority (Path.push kind (Path.dropEmptyLast path) login)) := by
  cases kind with
  | file => exact readFile_append_login hend h
  | other => exact readOther_append_login hend hat h hlone
  | special defaultPort =>
      simp only [readLocation] at h ⊢
      have hne : s.dropWhile (fun c => c == '/' || c == '\\') ≠ [] := fun hnil => by
        rw [hnil] at h
        cases h
      rw [List.dropWhile_append, if_neg (by simpa using hne)]
      refine readNetwork_append_login ?_ (fun hat => ?_) h hlone
      · exact .of_append _ (by rwa [List.takeWhile_append_dropWhile])
      · rw [hat] at h
        cases h

end Locations

/-! ### Texts that are continued -/

/-- The blanks at the end of a text that are read once something is put behind it. -/
def trailingBlanks (s : List Char) : List Char :=
  (s.reverse.takeWhile isPadding).reverse.filter fun c => !Path.isIgnored c

/-- Behind the blanks in front of a text, nothing but the trailing blanks gets lost. -/
theorem normalizeInput_append_trailingBlanks (h : s.dropWhile isPadding ≠ []) :
    normalizeInput s ++ trailingBlanks s =
      (s.dropWhile isPadding).filter fun c => !Path.isIgnored c := by
  have hblanks : s.reverse.takeWhile isPadding =
      (s.dropWhile isPadding).reverse.takeWhile isPadding := by
    have hkept : ¬ ((s.dropWhile isPadding).reverse.takeWhile isPadding).length =
        (s.dropWhile isPadding).reverse.length := fun hlength => by
      have hall := List.takeWhile_eq_self_iff.mp
        ((List.takeWhile_prefix isPadding).eq_of_length hlength)
      have hhead := hall _ (List.mem_reverse.mpr (List.head_mem h))
      rw [List.head_dropWhile_not isPadding] at hhead
      cases hhead
    have hparts : s.reverse =
        (s.dropWhile isPadding).reverse ++ (s.takeWhile isPadding).reverse := by
      rw [← List.reverse_append, List.takeWhile_append_dropWhile]
    rw [hparts, List.takeWhile_append, if_neg hkept]
  rw [normalizeInput, trailingBlanks, hblanks, ← List.filter_append, ← List.reverse_append,
    List.takeWhile_append_dropWhile, List.reverse_reverse]

theorem normalizeInput_append_login (h : normalizeInput s ≠ []) :
    normalizeInput (s ++ '/' :: login) =
      normalizeInput s ++ (trailingBlanks s ++ '/' :: login) := by
  have hne : s.dropWhile isPadding ≠ [] := fun hnil => h (by rw [normalizeInput, hnil]; rfl)
  have hstart : (s ++ '/' :: login).dropWhile isPadding =
      s.dropWhile isPadding ++ '/' :: login := by
    rw [List.dropWhile_append, if_neg (by simpa using hne)]
  have hend : (s.dropWhile isPadding ++ '/' :: login).reverse.dropWhile isPadding =
      (s.dropWhile isPadding ++ '/' :: login).reverse := by
    rw [List.reverse_append]
    rfl
  have hlogin : ('/' :: login).filter (fun c => !Path.isIgnored c) = '/' :: login := by rfl
  rw [← List.append_assoc, normalizeInput_append_trailingBlanks hne, normalizeInput, hstart, hend,
    List.reverse_reverse, List.filter_append, hlogin]

theorem splitScheme?_eq_some_iff {scheme rest : List Char} :
    splitScheme? s = some (scheme, rest) ↔ (∃ c ∈ s.head?, c.isAlpha = true) ∧
      s.dropWhile isSchemeChar = ':' :: rest ∧
      (s.takeWhile isSchemeChar).map Char.toLower = scheme := by
  cases s with
  | nil => simp [splitScheme?]
  | cons c s =>
      unfold splitScheme?
      split
      · next c' s' rest' hs hdrop =>
        obtain ⟨rfl, -⟩ := List.cons.inj hs
        rw [hdrop]
        by_cases hc : c.isAlpha = true <;> simp [hc, and_comm]
      · next hnone =>
        have hdrop : (c :: s).dropWhile isSchemeChar ≠ ':' :: rest := hnone c s rest rfl
        simp [hdrop]

theorem splitScheme?_append {scheme rest : List Char} (h : splitScheme? s = some (scheme, rest))
    (t : List Char) : splitScheme? (s ++ t) = some (scheme, rest ++ t) := by
  obtain ⟨⟨c, hc, halpha⟩, hdrop, hscheme⟩ := splitScheme?_eq_some_iff.mp h
  have hlength : ¬ (s.takeWhile isSchemeChar).length = s.length := fun hlength => by
    have hparts := congrArg List.length
      (List.takeWhile_append_dropWhile (p := isSchemeChar) (l := s))
    rw [hdrop, List.length_append, List.length_cons] at hparts
    omega
  refine splitScheme?_eq_some_iff.mpr ⟨⟨c, ?_, halpha⟩, ?_, ?_⟩
  · rw [List.head?_append, hc]
    rfl
  · rw [List.dropWhile_append, hdrop]
    rfl
  · rw [List.takeWhile_append, if_neg hlength, hscheme]

theorem printOptional_tail (c : Char) (s : List Char) :
    printOptional c (match s.dropWhile (· != c) with
      | _ :: r => some r
      | [] => none) = s.dropWhile (· != c) := by
  cases hdrop : s.dropWhile (· != c) with
  | nil => rfl
  | cons d r =>
      have hhead := List.head?_dropWhile_not (· != c) s
      rw [hdrop] at hhead
      have hd : d = c := by simpa using hhead
      rw [hd]
      rfl

/-- A text is put together of its path, its query and its fragment again. -/
theorem eq_of_splitTail {body : List Char} {query fragment : Option (List Char)}
    (h : splitTail s = (body, query, fragment)) :
    s = body ++ printOptional '?' query ++ printOptional '#' fragment ∧
      ('?' ∉ body ∧ '#' ∉ body) ∧ ∀ q ∈ query, '#' ∉ q := by
  obtain ⟨hbody, h⟩ := Prod.mk.inj h
  obtain ⟨hquery, hfragment⟩ := Prod.mk.inj h
  have hnotMem {c : Char} (t : List Char) : c ∉ t.takeWhile (· != c) := fun hmem => by
    have hne := List.mem_takeWhile_imp hmem
    simp at hne
  have hfragmentText : printOptional '#' fragment = s.dropWhile (· != '#') := by
    rw [← hfragment]
    exact printOptional_tail '#' s
  have hqueryText : printOptional '?' query = (s.takeWhile (· != '#')).dropWhile (· != '?') := by
    rw [← hquery]
    exact printOptional_tail '?' _
  have hbefore : s.takeWhile (· != '#') = body ++ printOptional '?' query := by
    rw [← hbody, hqueryText, List.takeWhile_append_dropWhile]
  have hmark : '#' ∉ body ++ printOptional '?' query := hbefore ▸ hnotMem s
  rw [List.mem_append, not_or] at hmark
  refine ⟨?_, ⟨hbody ▸ hnotMem _, hmark.1⟩, fun q hq hmem => hmark.2 ?_⟩
  · rw [← hbefore, hfragmentText, List.takeWhile_append_dropWhile]
  · rw [Option.mem_def.mp hq]
    exact List.mem_cons_of_mem _ hmem

/-! ### URLs that are continued -/

theorem percentEncode_append (set : Char → Bool) (s t : List Char) :
    percentEncode set (s ++ t) = percentEncode set s ++ percentEncode set t :=
  List.flatMap_append

theorem isPadding_of_mem_trailingBlanks {c : Char} (h : c ∈ trailingBlanks s) :
    isPadding c = true :=
  List.mem_takeWhile_imp (List.mem_reverse.mp (List.mem_of_mem_filter h))

variable {u : Url}

/-- A URL is read from a longer text if the longer parts are. -/
theorem ofChars_append_login {rest : List Char} (body : List Char)
    (query fragment : Option (List Char))
    (hscheme : splitScheme? (normalizeInput s) = some (u.scheme, rest))
    (hbody : '?' ∉ body ∧ '#' ∉ body) (hquery : ∀ q ∈ query, '#' ∉ q)
    (htail : rest ++ (trailingBlanks s ++ '/' :: login) =
      body ++ printOptional '?' query ++ printOptional '#' fragment)
    (hlocation : readLocation u.kind (query.isSome || fragment.isSome) body = .ok u.location)
    (huquery : u.query = query.map (percentEncode (inQuerySet u.kind.isSpecial)))
    (hufragment : u.fragment = fragment.map (percentEncode inFragmentSet)) :
    ofChars (s ++ '/' :: login) = .ok u := by
  have hne : normalizeInput s ≠ [] := fun hnil => by
    rw [hnil] at hscheme
    cases hscheme
  refine ofChars_eq_ok_iff.mpr ⟨rest ++ (trailingBlanks s ++ '/' :: login), body, query, fragment,
    ?_, ?_, hlocation, huquery, hufragment⟩
  · rw [normalizeInput_append_login hne]
    exact splitScheme?_append hscheme _
  · rw [htail, splitTail_append hbody hquery]

/-- A word behind a fragment belongs to the fragment. -/
theorem ofChars_append_login_of_fragment {f : List Char} (h : ofChars s = .ok u)
    (hf : u.fragment = some f) :
    ofChars (s ++ '/' :: login) = .ok { u with
      fragment := some (f ++ percentEncode inFragmentSet (trailingBlanks s) ++ '/' :: login) } := by
  obtain ⟨rest, body, query, fragment, hscheme, htail, hlocation, huquery, hufragment⟩ :=
    ofChars_eq_ok_iff.mp h
  obtain ⟨hrest, hbody, hquery⟩ := eq_of_splitTail htail
  rw [hf] at hufragment
  cases fragment with
  | none => cases hufragment
  | some f' =>
      obtain rfl := Option.some.inj hufragment
      have hlogin : percentEncode inFragmentSet ('/' :: login) = '/' :: login := by cbv
      refine ofChars_append_login body query (some (f' ++ (trailingBlanks s ++ '/' :: login)))
        hscheme hbody hquery ?_ hlocation huquery ?_
      · rw [hrest]
        simp [printOptional]
      · rw [Option.map_some, percentEncode_append, percentEncode_append, hlogin, List.append_assoc]

/-- Without a fragment, a word behind a query belongs to the query. -/
theorem ofChars_append_login_of_query {q : List Char} (h : ofChars s = .ok u)
    (hq : u.query = some q) (hf : u.fragment = none) :
    ofChars (s ++ '/' :: login) = .ok { u with
      query := some (q ++ percentEncode (inQuerySet u.kind.isSpecial) (trailingBlanks s) ++
        '/' :: login) } := by
  obtain ⟨rest, body, query, fragment, hscheme, htail, hlocation, huquery, hufragment⟩ :=
    ofChars_eq_ok_iff.mp h
  obtain ⟨hrest, hbody, hquery⟩ := eq_of_splitTail htail
  obtain rfl : fragment = none := Option.map_eq_none_iff.mp (hufragment.symm.trans hf)
  rw [hq] at huquery
  cases query with
  | none => cases huquery
  | some q' =>
      obtain rfl := Option.some.inj huquery
      have hlogin : percentEncode (inQuerySet u.kind.isSpecial) ('/' :: login) = '/' :: login := by
        cases u.kind.isSpecial <;> cbv
      have hmark : '#' ∉ trailingBlanks s ++ '/' :: login := by
        rw [List.mem_append, not_or]
        exact ⟨fun hmem => absurd (isPadding_of_mem_trailingBlanks hmem) (by decide), by decide⟩
      refine ofChars_append_login body (some (q' ++ (trailingBlanks s ++ '/' :: login))) none
        hscheme hbody ?_ ?_ hlocation ?_ hf
      · rintro _ ⟨⟩ hmem
        exact (List.mem_append.mp hmem).elim (hquery q' rfl) hmark
      · rw [hrest]
        simp [printOptional]
      · change some _ = some (percentEncode (inQuerySet u.kind.isSpecial) _)
        rw [percentEncode_append, percentEncode_append, hlogin, List.append_assoc]

/-- Texts behind which a word is read behind the path: no blanks at the end, a path that stands
last and does not end with a separator, and not just the sign behind an empty user name. -/
structure EndsInPath (s : List Char) (u : Url) : Prop where
  query : u.query = none
  fragment : u.fragment = none
  blanks : trailingBlanks s = []
  within : Path.EndsWithin u.kind (normalizeInput s)
  segments : ∀ a, u.location ≠ .hierarchical a [[], []]
  user : (normalizeInput s).dropWhile isSchemeChar ≠ "://@".toList

theorem ofChars_append_login_of_path {a : Option Authority} {path : List Segment}
    (h : ofChars s = .ok u) (hlocation : u.location = .hierarchical a path)
    (hend : EndsInPath s u) :
    ofChars (s ++ '/' :: login) = .ok { u with
      location := .hierarchical a (Path.push u.kind (Path.dropEmptyLast path) login) } := by
  obtain ⟨rest, body, query, fragment, hscheme, htail, hread, huquery, hufragment⟩ :=
    ofChars_eq_ok_iff.mp h
  obtain ⟨hrest, hbody, -⟩ := eq_of_splitTail htail
  obtain rfl : query = none := Option.map_eq_none_iff.mp (huquery.symm.trans hend.query)
  obtain rfl : fragment = none := Option.map_eq_none_iff.mp (hufragment.symm.trans hend.fragment)
  obtain rfl : rest = body := by simpa [printOptional] using hrest
  have hdrop := (splitScheme?_eq_some_iff.mp hscheme).2.1
  have hwithin : Path.EndsWithin u.kind rest := by
    refine .of_append ((normalizeInput s).takeWhile isSchemeChar ++ [':']) ?_
    rw [List.append_assoc, List.singleton_append, ← hdrop, List.takeWhile_append_dropWhile]
    exact hend.within
  have hat : rest ≠ "//@".toList := fun hat => hend.user (by rw [hdrop, hat]; rfl)
  have hlone : path ≠ [[], []] := fun hlone => hend.segments a (by rw [hlocation, hlone])
  have hlogin : '?' ∉ '/' :: login ∧ '#' ∉ '/' :: login := by decide
  rw [hlocation] at hread
  refine ofChars_append_login (rest ++ '/' :: login) none none hscheme ?_ (by simp) ?_
    (readLocation_append_login hwithin hat hread hlone) hend.query hend.fragment
  · simp only [List.mem_append, not_or]
    exact ⟨⟨hbody.1, hlogin.1⟩, hbody.2, hlogin.2⟩
  · rw [hend.blanks]
    simp [printOptional]

end EpisodeGuide.Url
