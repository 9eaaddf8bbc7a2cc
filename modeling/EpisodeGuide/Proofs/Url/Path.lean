import EpisodeGuide.Proofs.Url.Percent
import EpisodeGuide.Url.Reader

/-! # Paths with texts put behind them

The segments of a path that was read hold no slash, so the text of the path is split into them
again. A text that is put behind a path becomes one more segment, unless it stands for a place. -/

namespace EpisodeGuide.Url

/-! ### Slashes stand between segments -/

/-- The text of a path is split into its segments, if slashes are separators and none of them has
another one. -/
theorem Path.splitOnP_append_print {p : Char → Bool} {s : Segment} {path : List Segment}
    (hslash : p '/' = true) (hpath : ∀ s ∈ path, ∀ c ∈ s, p c = false) (hs : ∀ c ∈ s, p c = false) :
    (s ++ print path).splitOnP p = s :: path := by
  induction path generalizing s with
  | nil =>
      rw [print, List.flatMap_nil, List.append_nil]
      exact List.splitOnP_eq_singleton hs
  | cons t path ih =>
      obtain ⟨ht, hpath⟩ := List.forall_mem_cons.mp hpath
      have hrest := ih hpath ht
      rw [print] at hrest
      rw [print, List.flatMap_cons, List.cons_append,
        List.splitOnP_append_cons_of_forall_mem hs '/' hslash, hrest]

theorem Path.splitOn_print {path : List Segment} (h : ∀ s ∈ path, '/' ∉ s) :
    (print path).splitOn '/' = [] :: path := by
  have hfree : ∀ s ∈ path, ∀ c ∈ s, (c == '/') = false := fun s hs c hc =>
    beq_eq_false_iff_ne.mpr fun heq => h s hs (heq ▸ hc)
  exact splitOnP_append_print (by rfl) hfree (List.forall_mem_nil _)

theorem forall_mem_splitOnP {α : Type} (p : α → Bool) (xs : List α) :
    ∀ piece ∈ xs.splitOnP p, ∀ x ∈ piece, p x = false := by
  induction xs with
  | nil => simp
  | cons x xs ih =>
      rw [List.splitOnP_cons_eq_if_modifyHead]
      split
      · simpa using ih
      · next hx =>
        cases hpieces : xs.splitOnP p with
        | nil => simp
        | cons piece pieces =>
            rw [hpieces, List.forall_mem_cons] at ih
            rw [List.modifyHead_cons, List.forall_mem_cons, List.forall_mem_cons]
            exact ⟨⟨by simpa using hx, ih.1⟩, ih.2⟩

section Reading

variable {port : Option ℕ} {path segments : List Segment} {s t : Segment}

theorem mem_of_mem_popSegment (h : s ∈ popSegment path) : s ∈ path := by
  unfold popSegment at h
  split at h
  · split at h
    · exact h
    · exact List.mem_of_mem_dropLast h
  · exact h

theorem Path.mem_add {last : Bool} (h : s ∈ add (.special port) last path t) :
    s ∈ path ∨ s = t ∨ s = [] := by
  unfold add at h
  split at h
  · split at h
    · rcases List.mem_append.mp h with hpop | hnew
      · exact .inl (mem_of_mem_popSegment hpop)
      · exact .inr (.inr (List.mem_singleton.mp hnew))
    · exact .inl (mem_of_mem_popSegment h)
  · split at h
    · split at h
      · rcases List.mem_append.mp h with hpath | hnew
        · exact .inl hpath
        · exact .inr (.inr (List.mem_singleton.mp hnew))
      · exact .inl h
    · rcases List.mem_append.mp h with hpath | hnew
      · exact .inl hpath
      · exact .inr (.inl (List.mem_singleton.mp hnew))

theorem Path.mem_build (h : s ∈ build (.special port) path segments) :
    s ∈ path ∨ s ∈ segments ∨ s = [] := by
  fun_induction build (.special port) path segments with
  | case1 path => exact .inl h
  | case2 path t => simpa using mem_add h
  | case3 path t u rest ih =>
      rcases ih h with hadd | hrest | hempty
      · rcases mem_add hadd with hpath | rfl | hempty
        · exact .inl hpath
        · exact .inr (.inl (List.mem_cons_self ..))
        · exact .inr (.inr hempty)
      · exact .inr (.inl (List.mem_cons_of_mem _ hrest))
      · exact .inr (.inr hempty)

theorem Path.slash_notMem_ofText {text : List Char} (h : s ∈ ofText (.special port) text) :
    '/' ∉ s := by
  rcases mem_build h with hnil | hmem | rfl
  · cases hnil
  · obtain ⟨piece, hpiece, rfl⟩ := List.mem_map.mp hmem
    intro hslash
    have hfree := forall_mem_splitOnP _ text piece hpiece '/' (slash_of_mem_percentEncode hslash).1
    simp [isSeparator] at hfree
  · exact List.not_mem_nil

/-- The path of a special URL has no slashes in its segments. -/
theorem slash_notMem_readPath {text : List Char} (h : s ∈ readPath (.special port) text) :
    '/' ∉ s := by
  cases text with
  | nil =>
      obtain rfl : s = [] := by simpa [readPath, Kind.isSpecial] using h
      exact List.not_mem_nil
  | cons c text => exact Path.slash_notMem_ofText h

end Reading

/-! ### Texts that become segments -/

namespace Path

/-- A text is put behind a path as what is left of it without tabs and line breaks. A text of one or
two dots is not put there at all. -/
def kept? (text : List Char) : Option (List Char) :=
  if text = ['.'] ∨ text = ['.', '.'] then none else some (text.filter fun c => !isIgnored c)

/-- What is put behind a path as it is: a text without tabs and line breaks, and not dots. -/
def Faithful (text : List Char) : Prop :=
  text ≠ ['.'] ∧ text ≠ ['.', '.'] ∧ ∀ c ∈ text, isIgnored c = false

variable {port : Option ℕ} {path : List Segment} {text : List Char}

theorem inSegmentSet_percent : inSegmentSet true '%' = true := by
  simp [inSegmentSet]

theorem base_of_ne (h : path ≠ [[]]) : base path = path :=
  if_neg h

theorem base_concat {s : Segment} (h : s ≠ []) : base (path ++ [s]) = path ++ [s] :=
  base_of_ne fun heq => by
    have hlast := congrArg List.getLast? heq
    simp [h] at hlast

theorem mem_of_mem_base {s : Segment} (h : s ∈ base path) : s ∈ path := by
  unfold base at h
  split at h
  · cases h
  · exact h

theorem mem_of_mem_dropEmptyLast {s : Segment} (h : s ∈ dropEmptyLast path) : s ∈ path := by
  unfold dropEmptyLast at h
  split at h
  · exact List.mem_of_mem_dropLast h
  · exact h

theorem dropEmptyLast_concat_of_ne {s : Segment} (hs : s ≠ []) :
    dropEmptyLast (path ++ [s]) = path ++ [s] := by
  simp [dropEmptyLast, hs]

theorem base_dropEmptyLast_concat (hlone : path ≠ [[]]) :
    base (dropEmptyLast (path ++ [[]])) = path := by
  by_cases hnil : path = []
  · rw [hnil]
    rfl
  · have hlength : 2 ≤ (path ++ [[]]).length := by
      have hpos := List.length_pos_iff.mpr hnil
      rw [List.length_append, List.length_singleton]
      omega
    rw [dropEmptyLast, if_pos ⟨hlength, List.getLast?_concat⟩, List.dropLast_concat,
      base_of_ne hlone]

theorem base_inj {path' : List Segment} (hne : path ≠ []) (hne' : path' ≠ [])
    (h : base path = base path') : path = path' := by
  by_cases hlone : path = [[]] <;> by_cases hlone' : path' = [[]]
  · rw [hlone, hlone']
  · rw [base_of_ne hlone', base, if_pos hlone] at h
    exact (hne' h.symm).elim
  · rw [base_of_ne hlone, base, if_pos hlone'] at h
    exact (hne h).elim
  · rwa [base_of_ne hlone, base_of_ne hlone'] at h

theorem push_of_none (kind : Kind) (path : List Segment) (h : kept? text = none) :
    push kind path text = path := by
  have hdots : text = ['.'] ∨ text = ['.', '.'] := by
    by_contra hdots
    simp [kept?, hdots] at h
  simp [push, hdots]

theorem push_of_some {kept : List Char} (h : kept? text = some kept) :
    push (.special port) path text =
      add (.special port) true (base path) (percentEncode (inSegmentSet true) kept) := by
  unfold kept? at h
  split at h
  · cases h
  · next hdots =>
    obtain rfl := Option.some.inj h
    simp [push, hdots, tidy, Kind.isSpecial]

/-- One dot leaves an empty segment. -/
theorem push_dot (h : kept? text = some ['.']) :
    push (.special port) path text = base path ++ [[]] := by
  rw [push_of_some h]
  have hcoded : percentEncode (inSegmentSet true) ['.'] = ['.'] := by cbv
  have hone : isDoubleDot ['.'] = false := by decide
  have hdot : isSingleDot ['.'] = true := by decide
  simp [hcoded, add, hone, hdot]

/-- Two dots leave an empty segment in the place of the one before. -/
theorem push_dots (h : kept? text = some ['.', '.']) :
    push (.special port) path text = popSegment (base path) ++ [[]] := by
  rw [push_of_some h]
  have hcoded : percentEncode (inSegmentSet true) ['.', '.'] = ['.', '.'] := by cbv
  have hdots : isDoubleDot ['.', '.'] = true := by decide
  simp [hcoded, add, hdots]

/-- Any other text becomes a segment. -/
theorem push_segment {kept : List Char} (h : kept? text = some kept) (hdot : kept ≠ ['.'])
    (hdots : kept ≠ ['.', '.']) :
    push (.special port) path text = base path ++ [percentEncode (inSegmentSet true) kept] := by
  have hone : isSingleDot (percentEncode (inSegmentSet true) kept) = false :=
    Bool.eq_false_iff.mpr fun hone => hdot (isSingleDot_percentEncode inSegmentSet_percent hone)
  have htwo : isDoubleDot (percentEncode (inSegmentSet true) kept) = false :=
    Bool.eq_false_iff.mpr fun htwo => hdots (isDoubleDot_percentEncode inSegmentSet_percent htwo)
  rw [push_of_some h]
  simp [add, hone, htwo]

theorem faithful_iff : Faithful text ↔ kept? text = some text := by
  unfold Faithful kept?
  split
  · next hdots => rcases hdots with rfl | rfl <;> simp
  · next hdots =>
    rw [not_or] at hdots
    simp [hdots, List.filter_eq_self]

end Path

end EpisodeGuide.Url
