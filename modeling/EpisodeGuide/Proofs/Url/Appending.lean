import EpisodeGuide.Proofs.Url.Path

/-! # A segment behind the text of a URL

Behind a text that ends within its path, a slash and a word read as the word put behind the path
that is read. -/

namespace EpisodeGuide.Url

def login : Segment := "login".toList

variable {kind : Kind} {path front rest : List Segment} {s t : Segment}

namespace Path

/-! ### Segments that stay

The path of a file has no empty segments at its start. -/

/-- The segments of a path that stay in front of others. -/
def trimmed (kind : Kind) (path : List Segment) : List Segment :=
  match kind with
  | .file => path.dropWhile List.isEmpty
  | _ => path

theorem trimmed_append_cons (hs : s ≠ []) :
    trimmed kind (path ++ s :: rest) = trimmed kind path ++ s :: rest := by
  cases kind with
  | special | other => rfl
  | file =>
      cases hbare : path.dropWhile List.isEmpty <;> simp [trimmed, List.dropWhile_append, hbare, hs]

theorem trimmed_trimmed : trimmed kind (trimmed kind path) = trimmed kind path := by
  cases kind with
  | special | other => rfl
  | file => exact List.dropWhile_idempotent _ _

theorem tidy_concat (kind : Kind) (path : List Segment) (s : Segment) :
    tidy kind (path ++ [s]) = trimmed kind path ++ [s] := by
  cases kind with
  | special | other => rfl
  | file =>
      cases hbare : path.dropWhile List.isEmpty with
      | nil => cases s <;> simp [tidy, trimmed, List.dropWhile_append, hbare]
      | cons t front => simp [tidy, trimmed, List.dropWhile_append, hbare]

theorem tidy_file_ne (path : List Segment) : tidy .file path ≠ [[], []] := by
  cases hbare : path.dropWhile List.isEmpty with
  | nil => simp [tidy, hbare]
  | cons s front =>
      have hs : s ≠ [] := by
        have hhead := List.head?_dropWhile_not List.isEmpty path
        simpa [hbare] using hhead
      simp [tidy, hbare, hs]

/-! ### Words behind paths -/

/-- A text that is put behind any path as it is. -/
structure Word (w : Segment) : Prop where
  notDot : isSingleDot w = false
  notDots : isDoubleDot w = false
  long : 2 < w.length
  coded : ∀ kind : Kind, percentEncode (inSegmentSet kind.isSpecial)
    (w.filter fun c => !isIgnored c) = w

theorem word_login : Word login :=
  ⟨by decide, by decide, by decide, fun kind => by cases kind <;> cbv⟩

theorem word_series : Word "series".toList :=
  ⟨by decide, by decide, by decide, fun kind => by cases kind <;> cbv⟩

theorem word_episodes : Word "episodes".toList :=
  ⟨by decide, by decide, by decide, fun kind => by cases kind <;> cbv⟩

theorem word_default : Word "default".toList :=
  ⟨by decide, by decide, by decide, fun kind => by cases kind <;> cbv⟩

section Words

variable {w : Segment}

theorem Word.ne_nil (hw : Word w) : w ≠ [] := fun h => by
  have hlong := hw.long
  simp [h] at hlong

theorem Word.add_eq (hw : Word w) (kind : Kind) (last : Bool) (path : List Segment) :
    add kind last path w = path ++ [w] := by
  unfold add
  rw [hw.notDot, hw.notDots]
  simp only [Bool.false_eq_true, if_false]
  split
  · exact absurd hw.long (by simp)
  · rfl

theorem Word.push_eq (hw : Word w) (kind : Kind) (path : List Segment) :
    push kind path w = trimmed kind (base path) ++ [w] := by
  have hdots : ¬ (w = ['.'] ∨ w = ['.', '.']) := by
    rintro (rfl | rfl)
    · exact absurd hw.long (by decide)
    · exact absurd hw.long (by decide)
  rw [push, if_neg hdots]
  dsimp only
  rw [hw.coded kind, hw.add_eq, tidy_concat]

/-- An empty last segment gives way to a word, which stands where the empty one did. -/
theorem Word.push_of_empty (hw : Word w) (h : tidy kind (path ++ [[]]) ≠ [[], []]) :
    push kind (dropEmptyLast (tidy kind (path ++ [[]]))) w = tidy kind (path ++ [w]) := by
  rw [tidy_concat] at h
  rw [hw.push_eq, tidy_concat, tidy_concat,
    base_dropEmptyLast_concat fun hlone => h (by rw [hlone]; rfl), trimmed_trimmed]

theorem Word.push_of_ne (hw : Word w) (hs : s ≠ []) :
    push kind (dropEmptyLast (tidy kind (path ++ [s]))) w = tidy kind (path ++ [s] ++ [w]) := by
  rw [hw.push_eq, tidy_concat, tidy_concat, dropEmptyLast_concat_of_ne hs, base_concat hs,
    trimmed_append_cons hs, trimmed_append_cons hs, trimmed_trimmed]

end Words

/-! ### Words behind texts of paths -/

theorem build_concat (segments : List Segment) (t : Segment) :
    build kind path (segments ++ [t]) = add kind true (segments.foldl (add kind false) path) t := by
  induction segments generalizing path with
  | nil => rfl
  | cons s segments ih =>
      obtain ⟨next, rest, hrest⟩ := List.exists_cons_of_ne_nil
        (List.append_ne_nil_of_right_ne_nil segments (List.cons_ne_nil t []))
      rw [List.cons_append, hrest, build, ← hrest, ih, List.foldl_cons]

/-- Behind a segment of a text, which is not empty, the path has an empty segment that only a last
segment leaves there, or another segment, whatever follows. -/
theorem add_cases (kind : Kind) (path : List Segment) (ht : t ≠ []) :
    (∃ front, add kind true path t = front ++ [[]] ∧ add kind false path t = front) ∨
      ∃ front s, s ≠ [] ∧ ∀ last, add kind last path t = front ++ [s] := by
  unfold add
  split
  · exact .inl ⟨popSegment path, rfl, rfl⟩
  · split
    · exact .inl ⟨path, rfl, rfl⟩
    · split
      · next a b _ _ =>
        -- A drive gets a colon, and any other text of two characters stays.
        refine .inr ⟨[], if isDriveLetter [a, b] then [a, ':'] else [a, b], ?_, fun _ => ?_⟩
        · split <;> exact List.cons_ne_nil _ _
        · split <;> rfl
      · exact .inr ⟨path, t, ht, fun _ => rfl⟩

/-- A text that does not end with a separator. -/
def EndsWithin (kind : Kind) (s : List Char) : Prop :=
  ∀ c ∈ s.getLast?, isSeparator kind c = false

theorem EndsWithin.of_append (s : List Char) (h : EndsWithin kind (s ++ t)) :
    EndsWithin kind t := by
  intro c hc
  refine h c ?_
  rw [List.getLast?_append, hc]
  rfl

theorem EndsWithin.append (s : List Char) (ht : t ≠ []) (h : EndsWithin kind t) :
    EndsWithin kind (s ++ t) := by
  intro c hc
  rw [List.getLast?_append_of_ne_nil _ ht] at hc
  exact h c hc

theorem split_append_login (s : List Char) :
    split kind (s ++ '/' :: login) = split kind s ++ [login] := by
  have hslash : isSeparator kind '/' = true := by simp [isSeparator]
  have hlogin : ∀ c ∈ login, isSeparator kind c = false := by
    cases kind <;> simp [login, isSeparator, Kind.isSpecial]
  rw [split, List.splitOnP_append_cons s login hslash, List.splitOnP_eq_singleton hlogin, split]

/-- The last segment of a text that does not end with a separator is not empty. -/
theorem split_eq_concat (hne : s ≠ []) (hend : EndsWithin kind s) :
    ∃ segments t, split kind s = segments ++ [t] ∧ t ≠ [] := by
  induction s with
  | nil => exact (hne rfl).elim
  | cons c s ih =>
      rw [split, List.splitOnP_cons_eq_if_modifyHead]
      cases s with
      | nil =>
          have hc : isSeparator kind c = false := hend c rfl
          exact ⟨[], [c], by simp [hc], List.cons_ne_nil _ _⟩
      | cons d s =>
          obtain ⟨segments, t, hsplit, ht⟩ := ih (List.cons_ne_nil _ _)
            fun x hx => hend x (by rwa [List.getLast?_cons_cons])
          rw [split] at hsplit
          rw [hsplit]
          split
          · exact ⟨[] :: segments, t, rfl, ht⟩
          · cases segments with
            | nil => exact ⟨[], c :: t, rfl, List.cons_ne_nil _ _⟩
            | cons first segments => exact ⟨(c :: first) :: segments, t, rfl, ht⟩

theorem percentEncode_ne_nil {set : Char → Bool} (hs : s ≠ []) : percentEncode set s ≠ [] := by
  obtain ⟨c, s, rfl⟩ := List.exists_cons_of_ne_nil hs
  have hchar : percentChar set c ≠ [] := by
    unfold percentChar
    split
    · exact List.cons_ne_nil _ _
    · have hbytes : String.utf8EncodeChar c ≠ [] := by
        have hpos := Char.utf8Size_pos c
        rw [← String.length_utf8EncodeChar] at hpos
        exact List.length_pos_iff.mp hpos
      obtain ⟨b, bytes, hb⟩ := List.exists_cons_of_ne_nil hbytes
      rw [hb]
      exact List.cons_ne_nil _ _
  rw [percentEncode, List.flatMap_cons]
  exact List.append_ne_nil_of_left_ne_nil hchar _

/-- A word behind a text stands in the place of an empty last segment of its path or behind any
other one. -/
theorem ofText_append_login_cases (hne : s ≠ []) (hend : EndsWithin kind s) :
    (∃ front, ofText kind s = front ++ [[]] ∧
      ofText kind (s ++ '/' :: login) = front ++ [login]) ∨
    ∃ front t, t ≠ [] ∧ ofText kind s = front ++ [t] ∧
      ofText kind (s ++ '/' :: login) = front ++ [t] ++ [login] := by
  obtain ⟨segments, t, hsplit, ht⟩ := split_eq_concat hne hend
  have hlogin : percentEncode inPathSet login = login := by cbv
  let before := (segments.map (percentEncode inPathSet)).foldl (add kind false) []
  have hpath : ofText kind s = add kind true before (percentEncode inPathSet t) := by
    rw [ofText, hsplit, List.map_append, List.map_singleton, build_concat]
  have hlonger : ofText kind (s ++ '/' :: login) =
      add kind false before (percentEncode inPathSet t) ++ [login] := by
    rw [ofText, split_append_login, hsplit, List.map_append, List.map_singleton, hlogin,
      build_concat, List.map_append, List.map_singleton, List.foldl_append, List.foldl_cons,
      List.foldl_nil, word_login.add_eq]
  rw [hpath, hlonger]
  rcases add_cases kind before (percentEncode_ne_nil ht) with ⟨front, hlast, hfollowed⟩ |
    ⟨front, t', ht', hadd⟩
  · exact .inl ⟨front, hlast, by rw [hfollowed]⟩
  · exact .inr ⟨front, t', ht', hadd true, by rw [hadd false]⟩

/-- A word behind a text is a word behind its path. -/
theorem ofText_append_login (hne : s ≠ []) (hend : EndsWithin kind s)
    (hlone : tidy kind (ofText kind s) ≠ [[], []]) :
    tidy kind (ofText kind (s ++ '/' :: login)) =
      push kind (dropEmptyLast (tidy kind (ofText kind s))) login := by
  rcases ofText_append_login_cases hne hend with ⟨front, hpath, hlonger⟩ |
    ⟨front, t, ht, hpath, hlonger⟩
  · rw [hpath] at hlone ⊢
    rw [hlonger, word_login.push_of_empty hlone]
  · rw [hpath, hlonger, word_login.push_of_ne ht]

end Path

theorem Path.ofText_login (kind : Kind) : ofText kind login = [login] := by
  have hsplit : split kind login = [login] := List.splitOnP_eq_singleton (by
    cases kind <;> simp [login, isSeparator, Kind.isSpecial])
  have hcoded : percentEncode inPathSet login = login := by cbv
  rw [ofText, hsplit, List.map_singleton, hcoded, build, word_login.add_eq, List.nil_append]

theorem readPath_append_login (hend : Path.EndsWithin kind s) (hlone : readPath kind s ≠ [[], []]) :
    readPath kind (s ++ '/' :: login) =
      Path.push kind (Path.dropEmptyLast (readPath kind s)) login := by
  have hslash : Path.isSeparator kind '/' = true := by simp [Path.isSeparator]
  cases s with
  | nil =>
      have hempty : Path.base (Path.dropEmptyLast (readPath kind [])) = [] := by
        cases kind <;> rfl
      rw [Path.word_login.push_eq, hempty, List.nil_append, readPath, if_pos hslash,
        Path.ofText_login]
      exact Path.tidy_concat kind [] login
  | cons c r =>
      simp only [readPath, List.cons_append] at hlone ⊢
      split
      · next hc =>
        rw [if_pos hc] at hlone
        cases r with
        | nil =>
            have hlast := hend c rfl
            rw [hc] at hlast
            cases hlast
        | cons d r =>
            exact Path.ofText_append_login (List.cons_ne_nil _ _)
              (Path.EndsWithin.of_append [c] hend) hlone
      · next hc =>
        rw [if_neg hc] at hlone
        exact Path.ofText_append_login (List.cons_ne_nil _ _) hend hlone

end EpisodeGuide.Url
