import EpisodeGuide.Proofs.Cache.Ordering
import EpisodeGuide.Proofs.Cache.Shelf

/-! # Reading any table

Whatever rows a table holds, a look into it is decided by the rows of the one series, in the order
of reading: the first column that cannot be read is reported, and otherwise the age of the first
row says whether all of them are served. -/

namespace EpisodeGuide

/-! ### Columns -/

namespace Column

/-- The cells that a column can be read from. -/
def Accepts : Column → Cell → Prop
  | .season, c | .number, c => ∃ i : ℤ, c = .integer i ∧ 0 ≤ i ∧ i ≤ 4294967295
  | .name, c | .airDate, c => ∃ s, c = .text s
  | .lastUpdated, c => ∃ i, c = .integer i

/-- What is reported of a cell that a column cannot be read from. -/
def fault : Column → Cell → StorageFault
  | .season, .integer i => .outOfRange i .season
  | .number, .integer i => .outOfRange i .number
  | column, c => .wrongType c.typeName column

end Column

theorem Word.exists_unsigned32?_iff (i : ℤ) :
    (∃ w, unsigned32? i = some w) ↔ 0 ≤ i ∧ i ≤ 4294967295 := by
  simp [unsigned32?, UInt32.size]
  omega

namespace Cell

/-- A column is read from a cell that it accepts; otherwise the fault of the cell is reported. -/
inductive ReadAs {α : Type} (column : Column) (c : Cell) : Except StorageFault α → Prop where
  | refused (h : ¬ column.Accepts c) : ReadAs column c (.error (column.fault c))
  | accepted (v) (h : column.Accepts c) : ReadAs column c (.ok v)

theorem readNumber_readAs {column : Column} (h : column = .season ∨ column = .number) (c : Cell) :
    ReadAs column c (c.readNumber column) := by
  cases c with
  | integer i =>
      have haccepts : column.Accepts (.integer i) ↔ ∃ w, Word.unsigned32? i = some w := by
        rw [Word.exists_unsigned32?_iff]
        rcases h with rfl | rfl <;> simp [Column.Accepts]
      have hfault : column.fault (.integer i) = .outOfRange i column := by
        rcases h with rfl | rfl <;> rfl
      cases hword : Word.unsigned32? i with
      | none =>
          rw [readNumber, hword, ← hfault]
          exact .refused (by simp [haccepts, hword])
      | some w =>
          rw [readNumber, hword]
          exact .accepted w (haccepts.mpr ⟨w, hword⟩)
  | real | infinite | text | blob =>
      rcases h with rfl | rfl <;> exact .refused (by simp [Column.Accepts])

theorem readText_readAs {column : Column} (h : column = .name ∨ column = .airDate) (c : Cell) :
    ReadAs column c (c.readText column) := by
  cases c with
  | text s => rcases h with rfl | rfl <;> exact .accepted s ⟨s, rfl⟩
  | integer | real | infinite | blob =>
      rcases h with rfl | rfl <;> exact .refused (by simp [Column.Accepts])

theorem readInteger_readAs (c : Cell) :
    ReadAs .lastUpdated c (c.readInteger .lastUpdated) := by
  cases c with
  | integer i => exact .accepted i ⟨i, rfl⟩
  | real | infinite | text | blob => exact .refused (by simp [Column.Accepts])

end Cell

/-! ### Rows -/

theorem Episode.under_of_eq {series : String} {e : Episode} (h : e.seriesId = series) :
    e.under series = e := by
  rw [under, ← h]

namespace Row

def cell (r : Row) : Column → Cell
  | .season => r.season
  | .number => r.number
  | .name => r.name
  | .airDate => r.airDate
  | .lastUpdated => r.lastUpdated

/-- A row that every column can be read from. -/
def Sound (r : Row) : Prop :=
  ∀ column : Column, column.Accepts (r.cell column)

/-- The first column that cannot be read from a row. -/
structure FirstBad (column : Column) (r : Row) : Prop where
  refused : ¬ column.Accepts (r.cell column)
  first : ∀ earlier : Column, earlier.index < column.index → earlier.Accepts (r.cell earlier)

/-- The columns are read one after the other, up to the first bad one. -/
theorem decode_cases (series : String) (r : Row) :
    (r.Sound ∧ ∃ found, r.decode series = .ok found) ∨
      ∃ column, r.FirstBad column ∧ r.decode series = .error (column.fault (r.cell column)) := by
  have hseason := Cell.readNumber_readAs (.inl rfl) r.season
  have hnumber := Cell.readNumber_readAs (.inr rfl) r.number
  have hname := Cell.readText_readAs (.inl rfl) r.name
  have hairDate := Cell.readText_readAs (.inr rfl) r.airDate
  have hlastUpdated := Cell.readInteger_readAs r.lastUpdated
  unfold decode
  generalize r.season.readNumber .season = season at *
  generalize r.number.readNumber .number = number at *
  generalize r.name.readText .name = name at *
  generalize r.airDate.readText .airDate = airDate at *
  generalize r.lastUpdated.readInteger .lastUpdated = lastUpdated at *
  rcases hseason with h | ⟨_, hseason⟩
  · refine .inr ⟨.season, ⟨h, fun earlier hlt => ?_⟩, rfl⟩
    simp [Column.index] at hlt
  rcases hnumber with h | ⟨_, hnumber⟩
  · refine .inr ⟨.number, ⟨h, fun earlier hlt => ?_⟩, rfl⟩
    cases earlier <;> first | assumption | simp [Column.index] at hlt
  rcases hname with h | ⟨_, hname⟩
  · refine .inr ⟨.name, ⟨h, fun earlier hlt => ?_⟩, rfl⟩
    cases earlier <;> first | assumption | simp [Column.index] at hlt
  rcases hairDate with h | ⟨_, hairDate⟩
  · refine .inr ⟨.airDate, ⟨h, fun earlier hlt => ?_⟩, rfl⟩
    cases earlier <;> first | assumption | simp [Column.index] at hlt
  rcases hlastUpdated with h | ⟨_, hlastUpdated⟩
  · refine .inr ⟨.lastUpdated, ⟨h, fun earlier hlt => ?_⟩, rfl⟩
    cases earlier <;> first | assumption | simp [Column.index] at hlt
  · refine .inl ⟨fun column => ?_, _, rfl⟩
    cases column <;> assumption

theorem FirstBad.unique {column column' : Column} {r : Row} (h : r.FirstBad column)
    (h' : r.FirstBad column') : column = column' := by
  have hle : ¬ column.index < column'.index := fun hlt => h.refused (h'.first column hlt)
  have hge : ¬ column'.index < column.index := fun hlt => h'.refused (h.first column' hlt)
  cases column <;> cases column' <;> first | rfl | simp [Column.index] at hle hge

theorem decode_of_firstBad {series : String} {column : Column} {r : Row} (h : r.FirstBad column) :
    r.decode series = .error (column.fault (r.cell column)) := by
  rcases r.decode_cases series with ⟨hsound, -⟩ | ⟨column', h', hdecode⟩
  · exact (h.refused (hsound column)).elim
  · rw [hdecode, h.unique h']

theorem exists_decode_of_sound (series : String) {r : Row} (h : r.Sound) :
    ∃ found, r.decode series = .ok found := by
  rcases r.decode_cases series with ⟨-, hfound⟩ | ⟨column, hbad, -⟩
  · exact hfound
  · exact (hbad.refused (h column)).elim

def ofDated (series : String) (d : Episode × ℤ) : Row :=
  ofEpisode series d.2 d.1

theorem sound_ofDated (series : String) (d : Episode × ℤ) : (ofDated series d).Sound := by
  have hword (w : UInt32) : (0 : ℤ) ≤ w.toNat ∧ (w.toNat : ℤ) ≤ 4294967295 := by
    have h := w.toNat_lt
    omega
  intro column
  cases column with
  | season => exact ⟨_, rfl, hword d.1.season⟩
  | number => exact ⟨_, rfl, hword d.1.number⟩
  | name | airDate | lastUpdated => exact ⟨_, rfl⟩

/-- A sound row of a series holds an episode of it. -/
theorem exists_dated_of_sound {series : String} {r : Row} (hof : r.isOf series = true)
    (h : r.Sound) : ∃ d : Episode × ℤ, d.1.seriesId = series ∧ r = ofDated series d := by
  obtain ⟨rseries, season, number, name, airDate, lastUpdated⟩ := r
  obtain rfl : rseries = .text series := by simpa [isOf] using hof
  obtain ⟨i, rfl, hi⟩ := h .season
  obtain ⟨j, rfl, hj⟩ := h .number
  obtain ⟨s, rfl⟩ := h .name
  obtain ⟨a, rfl⟩ := h .airDate
  obtain ⟨t, rfl⟩ := h .lastUpdated
  obtain ⟨v, hv⟩ := (Word.exists_unsigned32?_iff i).mpr hi
  obtain ⟨w, hw⟩ := (Word.exists_unsigned32?_iff j).mpr hj
  obtain rfl := Word.toNat_of_unsigned32? hv
  obtain rfl := Word.toNat_of_unsigned32? hw
  exact ⟨(⟨series, v, w, s, a⟩, t), rfl, rfl⟩

/-- A row holds an episode of a series, cached at some second. -/
def Holds (series : String) (r : Row) (e : Episode) : Prop :=
  e.seriesId = series ∧ ∃ t, r = ofEpisode series t e

theorem Holds.sound {series : String} {r : Row} {e : Episode} (h : r.Holds series e) :
    r.Sound := by
  obtain ⟨-, t, rfl⟩ := h
  exact sound_ofDated series (e, t)

theorem holds_ofDated {series : String} {d : Episode × ℤ} (h : d.1.seriesId = series)
    (e : Episode) : (ofDated series d).Holds series e ↔ e = d.1 := by
  constructor
  · rintro ⟨hid, t, heq⟩
    have hdecode := congrArg (decode series) heq
    rw [ofDated, decode_ofEpisode, decode_ofEpisode] at hdecode
    have hunder : d.1.under series = e.under series := congrArg Prod.fst (Except.ok.inj hdecode)
    rw [Episode.under_of_eq h, Episode.under_of_eq hid] at hunder
    exact hunder.symm
  · rintro rfl
    exact ⟨h, d.2, rfl⟩

end Row

/-! ### Tables -/

namespace Table

variable {series : String}

theorem forall₂_holds_iff {dated : List (Episode × ℤ)} (h : ∀ d ∈ dated, d.1.seriesId = series)
    (episodes : List Episode) :
    List.Forall₂ (Row.Holds series) (dated.map (Row.ofDated series)) episodes ↔
      episodes = dated.map Prod.fst := by
  induction dated generalizing episodes with
  | nil => simp
  | cons d dated ih =>
      rw [List.forall_mem_cons] at h
      rw [List.map_cons, List.forall₂_cons_left_iff, List.map_cons]
      simp only [Row.holds_ofDated h.1, ih h.2]
      constructor
      · rintro ⟨e, es, rfl, rfl, rfl⟩
        rfl
      · rintro rfl
        exact ⟨_, _, rfl, rfl, rfl⟩

theorem sound_of_forall₂ {rows : List Row} {episodes : List Episode}
    (h : List.Forall₂ (Row.Holds series) rows episodes) : ∀ r ∈ rows, r.Sound := by
  induction h with
  | nil => simp
  | cons hr _ ih => exact List.forall_mem_cons.mpr ⟨hr.sound, ih⟩

theorem exists_dated_of_sound {rows : List Row} (hof : ∀ r ∈ rows, r.isOf series = true)
    (h : ∀ r ∈ rows, r.Sound) :
    ∃ dated : List (Episode × ℤ), (∀ d ∈ dated, d.1.seriesId = series) ∧
      rows = dated.map (Row.ofDated series) := by
  induction rows with
  | nil => exact ⟨[], by simp, rfl⟩
  | cons r rows ih =>
      rw [List.forall_mem_cons] at hof h
      obtain ⟨d, hd, rfl⟩ := Row.exists_dated_of_sound hof.1 h.1
      obtain ⟨dated, hdated, rfl⟩ := ih hof.2 h.2
      exact ⟨d :: dated, List.forall_mem_cons.mpr ⟨hd, hdated⟩, rfl⟩

theorem mapM_decode_ofDated {dated : List (Episode × ℤ)} (h : ∀ d ∈ dated, d.1.seriesId = series) :
    (dated.map (Row.ofDated series)).mapM (Row.decode series) = .ok dated := by
  induction dated with
  | nil => rfl
  | cons d dated ih =>
      rw [List.forall_mem_cons] at h
      rw [List.map_cons, List.mapM_cons, ih h.2, Row.ofDated, Row.decode_ofEpisode,
        Episode.under_of_eq h.1]
      rfl

/-- Rows are read in the order of their episodes. -/
theorem mergeSort_ofDated (dated : List (Episode × ℤ)) :
    (dated.map (Row.ofDated series)).mergeSort (fun a b => a.order b != .gt) =
      (dated.mergeSort fun a b => decide (a.1.Precedes b.1)).map (Row.ofDated series) := by
  rw [List.map_mergeSort]
  intro a _ b _
  exact (@Row.order_ofEpisode series 0 a.1 b.1).symm

theorem exists_first_bad {rows : List Row} (h : ∃ r ∈ rows, ¬ r.Sound) :
    ∃ before r after, rows = before ++ r :: after ∧ (∀ x ∈ before, x.Sound) ∧ ¬ r.Sound := by
  induction rows with
  | nil =>
      obtain ⟨r, hr, -⟩ := h
      cases hr
  | cons r rows ih =>
      by_cases hr : r.Sound
      · have hlater : ∃ x ∈ rows, ¬ x.Sound := by
          obtain ⟨x, hx, hbad⟩ := h
          rcases List.mem_cons.mp hx with rfl | hx
          · exact (hbad hr).elim
          · exact ⟨x, hx, hbad⟩
        obtain ⟨before, x, after, rfl, hbefore, hx⟩ := ih hlater
        exact ⟨r :: before, x, after, rfl, List.forall_mem_cons.mpr ⟨hr, hbefore⟩, hx⟩
      · exact ⟨[], r, rows, rfl, by simp, hr⟩

theorem mapM_decode_of_firstBad {before after : List Row} {r : Row} {column : Column}
    (hbefore : ∀ x ∈ before, x.Sound) (h : r.FirstBad column) :
    (before ++ r :: after).mapM (Row.decode series) = .error (column.fault (r.cell column)) := by
  induction before with
  | nil =>
      rw [List.nil_append, List.mapM_cons, Row.decode_of_firstBad h]
      rfl
  | cons x before ih =>
      rw [List.forall_mem_cons] at hbefore
      obtain ⟨found, hx⟩ := Row.exists_decode_of_sound series hbefore.1
      rw [List.cons_append, List.mapM_cons, hx, ih hbefore.2]
      rfl

end Table

/-! ### Looks into a table -/

/-- What a look at a second into a table with `rows` finds of a series, given its rows in the order
of reading. -/
structure ReadingSpec (clock : ℤ) (series : String) (rows inOrder : List Row) (found : Lookup) :
    Prop where
  own : ∀ others traps, others.filter (Row.isOf series) = rows.filter (Row.isOf series) →
    Database.read clock series ⟨some others, traps⟩ = found
  order : Row.InReadingOrder (rows.filter (Row.isOf series)) inOrder
  fails : (∃ e, found = .failed e) ↔ ∃ r ∈ rows, r.isOf series = true ∧ ¬ r.Sound
  failed : ∀ e, found = .failed e ↔ ∃ before r after column, inOrder = before ++ r :: after ∧
    (∀ x ∈ before, x.Sound) ∧ r.FirstBad column ∧ e = .queryFailed (column.fault (r.cell column))
  absent : found = .absent ↔ ∀ r ∈ rows, r.isOf series = false
  hit : ∀ episodes, found = .hit episodes ↔ List.Forall₂ (Row.Holds series) inOrder episodes ∧
    ∃ first time, inOrder.head? = some first ∧ first.lastUpdated = .integer time ∧
      max clock 0 - time ≤ 86400
  expired : found = .expired ↔ (∀ r ∈ rows, r.isOf series = true → r.Sound) ∧
    ∃ first time, inOrder.head? = some first ∧ first.lastUpdated = .integer time ∧
      86400 < max clock 0 - time
  sorted : ∀ episodes, found = .hit episodes → ∃ inserted,
    List.Forall₂ (Row.Holds series) (rows.filter (Row.isOf series)) inserted ∧
      Episode.StablySorted inserted episodes

namespace Database

variable (clock : ℤ) (series : String) (rows : List Row) (traps : List Trap)

theorem read_table : read clock series ⟨some rows, traps⟩ =
    match (Table.rowsOf series rows).mapM (Row.decode series) with
    | .ok found => judge clock found
    | .error fault => .failed (.queryFailed fault) := rfl

theorem judge_cons (d : Episode × ℤ) (dated : List (Episode × ℤ)) :
    judge clock (d :: dated) =
      if 86400 < max clock 0 - d.2 then .expired else .hit ((d :: dated).map Prod.fst) := by
  simp only [judge, gt_iff_lt, cacheLifetime_lt_iff]
  rfl

theorem judge_eq_absent_iff (dated : List (Episode × ℤ)) :
    judge clock dated = .absent ↔ dated = [] := by
  cases dated with
  | nil => exact iff_of_true rfl rfl
  | cons d dated =>
      rw [judge_cons]
      split <;> simp

theorem judge_eq_hit_iff (dated : List (Episode × ℤ)) (episodes : List Episode) :
    judge clock dated = .hit episodes ↔ episodes = dated.map Prod.fst ∧
      ∃ d, dated.head? = some d ∧ max clock 0 - d.2 ≤ 86400 := by
  cases dated with
  | nil => simp [judge]
  | cons d dated =>
      rw [judge_cons]
      simp only [List.head?_cons, Option.some.injEq, exists_eq_left']
      by_cases hage : 86400 < max clock 0 - d.2
      · rw [if_pos hage]
        exact iff_of_false (by simp) fun h => not_le.mpr hage h.2
      · rw [if_neg hage, and_iff_left (not_lt.mp hage), Lookup.hit.injEq, eq_comm]

theorem judge_eq_expired_iff (dated : List (Episode × ℤ)) :
    judge clock dated = .expired ↔ ∃ d, dated.head? = some d ∧ 86400 < max clock 0 - d.2 := by
  cases dated with
  | nil => simp [judge]
  | cons d dated =>
      rw [judge_cons]
      by_cases hage : 86400 < max clock 0 - d.2
      · simp [hage]
      · simp [hage]

theorem judge_ne_failed (dated : List (Episode × ℤ)) (e : CacheError) :
    judge clock dated ≠ .failed e := by
  cases dated with
  | nil => simp [judge]
  | cons d dated =>
      rw [judge_cons]
      split <;> simp

variable {series rows}

theorem mem_rowsOf_iff {r : Row} :
    r ∈ Table.rowsOf series rows ↔ r ∈ rows ∧ r.isOf series = true := by
  rw [(Table.rowsOf_inReadingOrder series rows).perm.mem_iff, List.mem_filter]

theorem read_of_firstBad {before after : List Row} {r : Row} {column : Column}
    (hsplit : Table.rowsOf series rows = before ++ r :: after) (hbefore : ∀ x ∈ before, x.Sound)
    (h : r.FirstBad column) :
    read clock series ⟨some rows, traps⟩ =
      .failed (.queryFailed (column.fault (r.cell column))) := by
  rw [read_table, hsplit, Table.mapM_decode_of_firstBad hbefore h]

/-- A bad row of the series is not read, and there is a first one. -/
theorem read_of_bad (h : ¬ ∀ r ∈ rows, r.isOf series = true → r.Sound) :
    ∃ before r after column, Table.rowsOf series rows = before ++ r :: after ∧
      (∀ x ∈ before, x.Sound) ∧ r.FirstBad column ∧ read clock series ⟨some rows, traps⟩ =
        .failed (.queryFailed (column.fault (r.cell column))) := by
  have hbad : ∃ r ∈ Table.rowsOf series rows, ¬ r.Sound := by
    by_contra hnone
    refine h fun r hr hof => ?_
    by_contra hr'
    exact hnone ⟨r, mem_rowsOf_iff.mpr ⟨hr, hof⟩, hr'⟩
  obtain ⟨before, r, after, hsplit, hbefore, hr⟩ := Table.exists_first_bad hbad
  rcases r.decode_cases series with ⟨hsound, -⟩ | ⟨column, hfirst, -⟩
  · exact (hr hsound).elim
  · have hread := read_of_firstBad clock traps hsplit hbefore hfirst
    exact ⟨before, r, after, column, hsplit, hbefore, hfirst, hread⟩

/-- Sound rows of the series are judged in order. -/
theorem read_of_sound (h : ∀ r ∈ rows, r.isOf series = true → r.Sound) :
    ∃ dated : List (Episode × ℤ), (∀ d ∈ dated, d.1.seriesId = series) ∧
      Table.rowsOf series rows = dated.map (Row.ofDated series) ∧
      read clock series ⟨some rows, traps⟩ = judge clock dated ∧
      ∃ inserted, List.Forall₂ (Row.Holds series) (rows.filter (Row.isOf series)) inserted ∧
        Episode.StablySorted inserted (dated.map Prod.fst) := by
  have hof : ∀ r ∈ rows.filter (Row.isOf series), r.isOf series = true :=
    fun r hr => (List.mem_filter.mp hr).2
  have hsound : ∀ r ∈ rows.filter (Row.isOf series), r.Sound :=
    fun r hr => h r (List.mem_filter.mp hr).1 (hof r hr)
  obtain ⟨dated, hid, hrows⟩ := Table.exists_dated_of_sound hof hsound
  let ordered := dated.mergeSort fun a b => decide (a.1.Precedes b.1)
  have hidOrdered : ∀ d ∈ ordered, d.1.seriesId = series :=
    fun d hd => hid d (List.mem_mergeSort.mp hd)
  have hrowsOf : Table.rowsOf series rows = ordered.map (Row.ofDated series) := by
    rw [Table.rowsOf, hrows, Table.mergeSort_ofDated]
  have hsorted : ordered.map Prod.fst = Episode.sorted (dated.map Prod.fst) := by
    rw [Episode.sorted, List.map_mergeSort]
    exact fun _ _ _ _ => rfl
  refine ⟨ordered, hidOrdered, hrowsOf, ?_, dated.map Prod.fst, ?_, ?_⟩
  · rw [read_table, hrowsOf, Table.mapM_decode_ofDated hidOrdered]
  · rw [hrows, Table.forall₂_holds_iff hid]
  · rw [hsorted]
    exact Episode.sorted_stablySorted _

theorem read_eq_failed_iff (e : CacheError) :
    read clock series ⟨some rows, traps⟩ = .failed e ↔
      ∃ before r after column, Table.rowsOf series rows = before ++ r :: after ∧
        (∀ x ∈ before, x.Sound) ∧ r.FirstBad column ∧
        e = .queryFailed (column.fault (r.cell column)) := by
  constructor
  · intro he
    by_cases hsound : ∀ r ∈ rows, r.isOf series = true → r.Sound
    · obtain ⟨dated, -, -, hread, -⟩ := read_of_sound clock traps hsound
      exact (judge_ne_failed clock dated e (hread.symm.trans he)).elim
    · obtain ⟨before, r, after, column, hsplit, hbefore, hfirst, hread⟩ :=
        read_of_bad clock traps hsound
      exact ⟨before, r, after, column, hsplit, hbefore, hfirst,
        Lookup.failed.inj (he.symm.trans hread)⟩
  · rintro ⟨before, r, after, column, hsplit, hbefore, hfirst, rfl⟩
    exact read_of_firstBad clock traps hsplit hbefore hfirst

theorem read_fails_iff :
    (∃ e, read clock series ⟨some rows, traps⟩ = .failed e) ↔
      ∃ r ∈ rows, r.isOf series = true ∧ ¬ r.Sound := by
  constructor
  · rintro ⟨e, he⟩
    obtain ⟨before, r, after, column, hsplit, -, hfirst, -⟩ :=
      (read_eq_failed_iff clock traps e).mp he
    have hr : r ∈ Table.rowsOf series rows := by simp [hsplit]
    rw [mem_rowsOf_iff] at hr
    exact ⟨r, hr.1, hr.2, fun hsound => hfirst.refused (hsound column)⟩
  · rintro ⟨r, hr, hof, hbad⟩
    obtain ⟨_, _, _, _, -, -, -, hread⟩ :=
      read_of_bad clock traps fun hsound => hbad (hsound r hr hof)
    exact ⟨_, hread⟩

theorem rowsOf_eq_nil_iff : Table.rowsOf series rows = [] ↔ ∀ r ∈ rows, r.isOf series = false := by
  rw [List.eq_nil_iff_forall_not_mem]
  simp only [mem_rowsOf_iff, not_and, Bool.not_eq_true]

theorem read_eq_absent_iff :
    read clock series ⟨some rows, traps⟩ = .absent ↔ ∀ r ∈ rows, r.isOf series = false := by
  rw [← rowsOf_eq_nil_iff]
  by_cases hsound : ∀ r ∈ rows, r.isOf series = true → r.Sound
  · obtain ⟨dated, -, hrows, hread, -⟩ := read_of_sound clock traps hsound
    rw [hread, judge_eq_absent_iff, hrows, List.map_eq_nil_iff]
  · obtain ⟨before, r, after, column, hsplit, -, -, hread⟩ :=
      read_of_bad clock traps hsound
    rw [hread, hsplit]
    simp

/-- The first row of a list tells the time of the first of its episodes. -/
theorem exists_head_iff (dated : List (Episode × ℤ)) (p : ℤ → Prop) :
    (∃ first time, (dated.map (Row.ofDated series)).head? = some first ∧
      first.lastUpdated = .integer time ∧ p time) ↔ ∃ d, dated.head? = some d ∧ p d.2 := by
  cases dated with
  | nil => simp
  | cons d dated => simp [Row.ofDated, Row.ofEpisode]

theorem read_eq_hit_iff (episodes : List Episode) :
    read clock series ⟨some rows, traps⟩ = .hit episodes ↔
      List.Forall₂ (Row.Holds series) (Table.rowsOf series rows) episodes ∧
        ∃ first time, (Table.rowsOf series rows).head? = some first ∧
          first.lastUpdated = .integer time ∧ max clock 0 - time ≤ 86400 := by
  by_cases hsound : ∀ r ∈ rows, r.isOf series = true → r.Sound
  · obtain ⟨dated, hid, hrows, hread, -⟩ := read_of_sound clock traps hsound
    rw [hread, judge_eq_hit_iff, hrows, Table.forall₂_holds_iff hid,
      exists_head_iff dated fun time => max clock 0 - time ≤ 86400]
  · obtain ⟨before, r, after, column, hsplit, -, hfirst, hread⟩ :=
      read_of_bad clock traps hsound
    rw [hread]
    refine iff_of_false (by simp) fun ⟨hall, _⟩ => ?_
    exact hfirst.refused (Table.sound_of_forall₂ hall r (by simp [hsplit]) column)

theorem read_eq_expired_iff :
    read clock series ⟨some rows, traps⟩ = .expired ↔
      (∀ r ∈ rows, r.isOf series = true → r.Sound) ∧
        ∃ first time, (Table.rowsOf series rows).head? = some first ∧
          first.lastUpdated = .integer time ∧ 86400 < max clock 0 - time := by
  by_cases hsound : ∀ r ∈ rows, r.isOf series = true → r.Sound
  · obtain ⟨dated, -, hrows, hread, -⟩ := read_of_sound clock traps hsound
    rw [hread, judge_eq_expired_iff, hrows, and_iff_right hsound,
      exists_head_iff dated fun time => 86400 < max clock 0 - time]
  · obtain ⟨_, _, _, _, -, -, -, hread⟩ := read_of_bad clock traps hsound
    rw [hread]
    exact iff_of_false (by simp) fun h => hsound h.1

/-- A look into any table, at any second. -/
theorem read_readingSpec (clock : ℤ) (series : String) (rows : List Row) (traps : List Trap) :
    ∃! inOrder, ReadingSpec clock series rows inOrder
      (read clock series ⟨some rows, traps⟩) := by
  have horder := Table.rowsOf_inReadingOrder series rows
  refine ⟨Table.rowsOf series rows, ?_, fun inOrder h => h.order.unique horder⟩
  refine ⟨fun others traps' h => ?_, horder, read_fails_iff clock traps,
    read_eq_failed_iff clock traps, read_eq_absent_iff clock traps, read_eq_hit_iff clock traps,
    read_eq_expired_iff clock traps, fun episodes hhit => ?_⟩
  · rw [read_table, read_table, Table.rowsOf, h, Table.rowsOf]
  · have hsound : ∀ r ∈ rows, r.isOf series = true → r.Sound := by
      by_contra hbad
      obtain ⟨_, _, _, _, -, -, -, hread⟩ := read_of_bad clock traps hbad
      cases hhit.symm.trans hread
    obtain ⟨dated, -, -, hread, inserted, hinserted, hsorted⟩ :=
      read_of_sound clock traps hsound
    rw [hread, judge_eq_hit_iff] at hhit
    rw [hhit.1]
    exact ⟨inserted, hinserted, hsorted⟩

end Database

end EpisodeGuide
