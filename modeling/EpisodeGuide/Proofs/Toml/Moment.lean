import EpisodeGuide.Proofs.Toml.Number

/-! # Dates and times of TOML

What dates, times of day and both together look like. They are read up to what follows them, and no
number is taken for one. -/

namespace EpisodeGuide.Toml

open EpisodeGuide.Text

/-! ### What dates and times look like -/

/-- A number of exactly `count` digits. -/
def FixedDigits (count : ℕ) (w : List Char) (n : ℕ) : Prop :=
  w.length = count ∧ ∃ ds, w.mapM digit? = some ds ∧ ofDigits 10 ds = n

/-- A date of the calendar. -/
inductive DateText : List Char → Prop where
  | date {y m d year month day} : FixedDigits 4 y year → FixedDigits 2 m month →
      FixedDigits 2 d day →
      1 ≤ month ∧ month ≤ 12 ∧ 1 ≤ day ∧ day ≤ daysIn year month →
      DateText (y ++ '-' :: (m ++ '-' :: d))

inductive HourMinuteText : List Char → Prop where
  | hourMinute {h m hour minute} : FixedDigits 2 h hour → FixedDigits 2 m minute →
      hour ≤ 23 ∧ minute ≤ 59 → HourMinuteText (h ++ ':' :: m)

/-- The part of a second: nothing, or a point and digits. -/
inductive SecondFractionText : List Char → Prop where
  | none : SecondFractionText []
  | digits {w} : w ≠ [] → (∀ c ∈ w, isDigit c = true) → SecondFractionText ('.' :: w)

/-- A time of day; the second may be a leap second. -/
inductive TimeText : List Char → Prop where
  | time {hm s second f} : HourMinuteText hm → FixedDigits 2 s second → second ≤ 60 →
      SecondFractionText f → TimeText (hm ++ ':' :: (s ++ f))

/-- An offset from universal time. -/
inductive OffsetText : List Char → Prop where
  | universal {z} : z = 'Z' ∨ z = 'z' → OffsetText [z]
  | difference {sign hm} : sign = '+' ∨ sign = '-' → HourMinuteText hm → OffsetText (sign :: hm)

inductive MomentText : List Char → Prop where
  | date {w} : DateText w → MomentText w
  | time {w} : TimeText w → MomentText w
  | dateTime {w mark v} : DateText w → mark ∈ ['T', 't', ' '] → TimeText v →
      MomentText (w ++ mark :: v)
  | offset {w mark v o} : DateText w → mark ∈ ['T', 't', ' '] → TimeText v → OffsetText o →
      MomentText (w ++ mark :: (v ++ o))

section

variable {count n : ℕ} {c : Char} {s r rest w v o f : List Char}

/-! ### Digits -/

theorem takeFixed_of_fixedDigits (h : FixedDigits count w n) (rest : List Char) :
    takeFixed count (w ++ rest) = some (n, rest) := by
  obtain ⟨rfl, ds, hds, rfl⟩ := h
  simp [takeFixed, hds]

theorem isDigit_of_takeFixed (h : takeFixed count s = some (n, r)) :
    (s.take count).length = count ∧ (∀ x ∈ s.take count, isDigit x = true) ∧
      s = s.take count ++ r := by
  unfold takeFixed at h
  split at h
  · next hlength =>
    obtain ⟨ds, hds, heq⟩ := Option.map_eq_some_iff.mp h
    obtain ⟨-, rfl⟩ := Prod.mk.inj heq
    exact ⟨hlength, (filterMap_of_mapM hds).2.1, (List.take_append_drop ..).symm⟩
  · cases h

/-- Digits are taken from the start of a text only. -/
theorem takeFixed_of_head (hcount : 0 < count) (h : ∀ c ∈ s.head?, isDigit c = false) :
    takeFixed count s = none := by
  cases htake : takeFixed count s with
  | none => rfl
  | some read =>
      obtain ⟨hlength, hall, heq⟩ := isDigit_of_takeFixed (r := read.2) htake
      obtain ⟨c, t, htake⟩ := List.exists_cons_of_length_pos (hlength ▸ hcount)
      rw [htake] at hall heq
      have hc := h c (by rw [heq]; rfl)
      rw [hall c (by simp)] at hc
      cases hc

/-- A text whose first digits, if there are any, are followed neither by a hyphen nor by a colon. -/
def NoMoment (s : List Char) : Prop :=
  ∀ c r, s.takeWhile isDigit ≠ [] → s.dropWhile isDigit = c :: r → c ≠ '-' ∧ c ≠ ':'

theorem NoMoment.takeChar (h : NoMoment s) (hcount : 0 < count)
    (htake : takeFixed count s = some (n, r)) : takeChar '-' r = none ∧ takeChar ':' r = none := by
  obtain ⟨hlength, hall, heq⟩ := isDigit_of_takeFixed htake
  cases r with
  | nil => exact ⟨rfl, rfl⟩
  | cons c r =>
      have hc : c ≠ '-' ∧ c ≠ ':' := by
        cases hc : isDigit c with
        | true => constructor <;> rintro rfl <;> cases hc
        | false =>
            refine h c r ?_ ?_
            · rw [heq, List.takeWhile_append_of_pos hall]
              refine List.append_ne_nil_of_left_ne_nil (fun hnil => ?_) _
              rw [hnil] at hlength
              exact hcount.ne hlength
            · rw [heq, List.dropWhile_append_of_pos hall, List.dropWhile_cons_of_neg (by simp [hc])]
      simp [Toml.takeChar, hc.1.symm, hc.2.symm]

theorem takeHourMinute_of_noMoment (h : NoMoment s) : takeHourMinute s = none := by
  cases htake : takeFixed 2 s with
  | none => simp [takeHourMinute, htake]
  | some read => simp [takeHourMinute, htake, (h.takeChar (by decide) htake).2]

theorem takeMoment_of_noMoment (h : NoMoment s) : takeMoment s = none := by
  have hdate : takeDate s = none := by
    cases htake : takeFixed 4 s with
    | none => simp [takeDate, htake]
    | some read => simp [takeDate, htake, (h.takeChar (by decide) htake).1]
  have htime : takeTime s = none := by simp [takeTime, takeHourMinute_of_noMoment h]
  rw [takeMoment, hdate, htime]
  rfl

/-! ### Dates and times are read -/

theorem takeChar_self (c : Char) (r : List Char) : takeChar c (c :: r) = some r := by
  simp [takeChar]

theorem exists_takeDate (h : DateText w) (rest : List Char) :
    ∃ date, takeDate (w ++ rest) = some (date, rest) := by
  cases h with
  | @date y m d year month day hy hm hd hcalendar =>
      have hyear := takeFixed_of_fixedDigits hy ('-' :: (m ++ '-' :: (d ++ rest)))
      have hmonth := takeFixed_of_fixedDigits hm ('-' :: (d ++ rest))
      have hday := takeFixed_of_fixedDigits hd rest
      simp [takeDate, hyear, hmonth, hday, takeChar_self, hcalendar]

theorem exists_takeHourMinute (h : HourMinuteText w) (rest : List Char) :
    ∃ hm, takeHourMinute (w ++ rest) = some (hm, rest) := by
  cases h with
  | @hourMinute h m hour minute hh hm hrange =>
      have hhour := takeFixed_of_fixedDigits hh (':' :: (m ++ rest))
      have hminute := takeFixed_of_fixedDigits hm rest
      simp [takeHourMinute, hhour, hminute, takeChar_self, hrange]

theorem exists_takeSecondFraction (h : SecondFractionText f)
    (hrest : ∀ c ∈ rest.head?, isDigit c = false ∧ c ≠ '.') :
    ∃ ds, takeSecondFraction (f ++ rest) = (ds, rest) := by
  cases h with
  | none =>
      rw [List.nil_append, takeSecondFraction.eq_def]
      split
      · exact ((hrest _ rfl).2 rfl).elim
      · exact ⟨_, rfl⟩
  | @digits w hne hw =>
      obtain ⟨c, w, rfl⟩ := List.exists_cons_of_ne_nil hne
      obtain ⟨d, hd⟩ := Option.isSome_iff_exists.mp (hw c (by simp))
      have hdrop : rest.dropWhile isDigit = rest := by
        cases rest with
        | nil => rfl
        | cons x rest => exact List.dropWhile_cons_of_neg (by simp [(hrest x rfl).1])
      have hread : ∃ ds, takeDigits (c :: w ++ rest) = (d :: ds, rest) := by
        have hc : isDigit c = true := hw c (by simp)
        refine ⟨((w ++ rest).takeWhile isDigit).filterMap digit?, Prod.ext ?_ ?_⟩
        · simp [takeDigits, hc, hd]
        · rw [takeDigits, List.dropWhile_append_of_pos hw, hdrop]
      obtain ⟨ds, hread⟩ := hread
      rw [List.cons_append, takeSecondFraction, hread]
      exact ⟨_, rfl⟩

theorem exists_takeTime (h : TimeText v) (hrest : ∀ c ∈ rest.head?, isDigit c = false ∧ c ≠ '.') :
    ∃ time, takeTime (v ++ rest) = some (time, rest) := by
  cases h with
  | @time hm s second f hhm hs hsecond hf =>
      obtain ⟨hourMinute, hread⟩ := exists_takeHourMinute hhm (':' :: (s ++ (f ++ rest)))
      have hfixed := takeFixed_of_fixedDigits hs (f ++ rest)
      obtain ⟨ds, hfraction⟩ := exists_takeSecondFraction hf hrest
      simp [takeTime, hread, takeChar_self, hfixed, hfraction, hsecond]

theorem exists_takeOffset (h : OffsetText o) (rest : List Char) :
    ∃ offset, takeOffset (o ++ rest) = some (offset, rest) := by
  cases h with
  | universal hz => rcases hz with rfl | rfl <;> exact ⟨0, rfl⟩
  | @difference sign hm hsign hhm =>
      obtain ⟨hourMinute, hread⟩ := exists_takeHourMinute hhm rest
      rcases hsign with rfl | rfl <;> simp [takeOffset, hread]

/-- Behind a value there is no time of day, and no offset either. -/
theorem Ends.no_time (h : Ends rest) : takeTimeOfDay rest = none ∧ takeOffset rest = none := by
  cases rest with
  | nil => exact ⟨rfl, rfl⟩
  | cons c r =>
      obtain ⟨hT, ht, hoffset⟩ := h.forall_head (P := fun c => c ≠ 'T' ∧ c ≠ 't' ∧
        c ∉ ['Z', 'z', '+', '-']) (by decide) c rfl
      simp only [List.mem_cons, List.not_mem_nil, or_false, not_or] at hoffset
      refine ⟨?_, by simp [takeOffset, hoffset]⟩
      by_cases hspace : c = ' '
      · subst hspace
        have hdigit : ∀ x ∈ r.head?, isDigit x = false :=
          ((ends_cons_iff rfl).mp h).forall_head (by decide)
        have hfixed : takeFixed 2 r = none := takeFixed_of_head (by decide) hdigit
        simp [takeTimeOfDay, takeTime, takeHourMinute, hfixed]
      · simp [takeTimeOfDay, hT, ht, hspace]

theorem takeTimeOfDay_mark (h : c ∈ ['T', 't', ' ']) (s : List Char) :
    takeTimeOfDay (c :: s) = takeTime s := by
  have hmark : (c == 'T' || c == 't' || c == ' ') = true := by simpa [or_assoc] using h
  rw [takeTimeOfDay, if_pos hmark]

theorem takeDate_of_timeText (h : TimeText v) (rest : List Char) : takeDate (v ++ rest) = none := by
  have hfixed : takeFixed 4 (v ++ rest) = none := by
    cases htake : takeFixed 4 (v ++ rest) with
    | none => rfl
    | some read =>
        obtain ⟨-, hall, -⟩ := isDigit_of_takeFixed (r := read.2) htake
        cases h with
        | time hhm =>
            cases hhm with
            | hourMinute hh =>
                have hcolon := hall ':' (by simp [List.take_append, hh.1])
                cases hcolon
  simp [takeDate, hfixed]

theorem OffsetText.head (h : OffsetText o) (rest : List Char) :
    ∀ c ∈ (o ++ rest).head?, isDigit c = false ∧ c ≠ '.' := by
  cases h with
  | universal hz => rcases hz with rfl | rfl <;> simp [isDigit, digit?]
  | difference hsign => rcases hsign with rfl | rfl <;> simp [isDigit, digit?]

theorem exists_takeMoment (h : MomentText w) (hrest : Ends rest) :
    ∃ m, takeMoment (w ++ rest) = some (m, rest) := by
  have hstop : ∀ c ∈ rest.head?, isDigit c = false ∧ c ≠ '.' := hrest.forall_head (by decide)
  obtain ⟨hnotime, hnooffset⟩ := hrest.no_time
  cases h with
  | date hw =>
      obtain ⟨date, hdate⟩ := exists_takeDate hw rest
      simp [takeMoment, hdate, hnotime]
  | time hv =>
      obtain ⟨time, htime⟩ := exists_takeTime hv hstop
      simp [takeMoment, takeDate_of_timeText hv, htime]
  | @dateTime w mark v hw hmark hv =>
      obtain ⟨date, hdate⟩ := exists_takeDate hw (mark :: (v ++ rest))
      obtain ⟨time, htime⟩ := exists_takeTime hv hstop
      simp [takeMoment, hdate, takeTimeOfDay_mark hmark, htime, hnooffset]
  | @offset w mark v o hw hmark hv ho =>
      obtain ⟨date, hdate⟩ := exists_takeDate hw (mark :: (v ++ (o ++ rest)))
      obtain ⟨time, htime⟩ := exists_takeTime hv (ho.head rest)
      obtain ⟨offset, hoffset⟩ := exists_takeOffset ho rest
      simp [takeMoment, hdate, takeTimeOfDay_mark hmark, htime, hoffset]

/-! ### Numbers are neither -/

theorem noMoment_of_head (h : ∀ c ∈ s.head?, isDigit c = false) : NoMoment s := by
  intro c r hne _
  cases s with
  | nil => exact (hne rfl).elim
  | cons x s => exact (hne (List.takeWhile_cons_of_neg (by simp [h x rfl]))).elim

/-- Behind digits comes an underscore or what follows the number. -/
theorem MoreDigits.dropWhile {ds : List ℕ} (h : MoreDigits digit? w ds)
    (hrest : ∀ c ∈ rest.head?, isDigit c = false ∧ c ≠ '-' ∧ c ≠ ':') :
    ∀ c r, (w ++ rest).dropWhile isDigit = c :: r → c ≠ '-' ∧ c ≠ ':' := by
  induction h with
  | nil =>
      intro c r heq
      cases rest with
      | nil => cases heq
      | cons x rest =>
          obtain ⟨hx, hne⟩ := hrest x rfl
          rw [List.nil_append, List.dropWhile_cons_of_neg (by simp [hx])] at heq
          exact (List.cons.inj heq).1 ▸ hne
  | digit hc _ ih =>
      rwa [List.cons_append, List.dropWhile_cons_of_pos (by simp [isDigit, hc])]
  | spaced _ _ _ =>
      rintro c r heq
      rw [List.cons_append, List.dropWhile_cons_of_neg (by decide)] at heq
      rw [← (List.cons.inj heq).1]
      decide

theorem SpacedDigits.noMoment {ds : List ℕ} (h : SpacedDigits digit? w ds)
    (hrest : ∀ c ∈ rest.head?, isDigit c = false ∧ c ≠ '-' ∧ c ≠ ':') : NoMoment (w ++ rest) := by
  cases h with
  | start hc hw => exact fun c r _ => (MoreDigits.digit hc hw).dropWhile hrest c r

/-- A sign in front of a text leaves no date or time. -/
theorem SignText.noMoment {sign : List Char} {negative : Bool} (h : SignText sign negative)
    (hs : NoMoment s) : NoMoment (sign ++ s) := by
  cases h with
  | none => exact hs
  | plus | minus => exact noMoment_of_head (by simp [isDigit, digit?])

theorem noMoment_of_integerText {i : ℤ} (h : IntegerText w i) (hrest : Ends rest) :
    NoMoment (w ++ rest) := by
  cases h with
  | decimal hsign hw =>
      rw [List.append_assoc]
      exact hsign.noMoment (hw.spacedDigits.noMoment (hrest.forall_head (by decide)))
  | @based mark base value? w ds hmark hw =>
      have hone : SpacedDigits digit? ['0'] [0] := .start rfl .nil
      have hmarked : ∀ c ∈ (mark :: w ++ rest).head?, isDigit c = false ∧ c ≠ '-' ∧ c ≠ ':' := by
        cases hmark <;> simp [isDigit, digit?]
      exact hone.noMoment hmarked

theorem noMoment_of_realText {x : RealNumber} (h : RealText w x) (rest : List Char) :
    NoMoment (w ++ rest) := by
  cases h with
  | decimal hsign hw hp =>
      rw [List.append_assoc, List.append_assoc]
      obtain ⟨c, r, rfl, hc⟩ := hp.head
      refine hsign.noMoment (hw.spacedDigits.noMoment ?_)
      rintro x hx
      obtain rfl : c = x := Option.some.inj hx
      have hstop : ∀ c ∈ ['.', 'e', 'E'], isDigit c = false ∧ c ≠ '-' ∧ c ≠ ':' :=
        forall_mem_of_all (by decide)
      exact hstop c hc
  | infinite hsign | undefined hsign =>
      rw [List.append_assoc]
      exact hsign.noMoment (noMoment_of_head (by simp [isDigit, digit?]))

end

end EpisodeGuide.Toml
