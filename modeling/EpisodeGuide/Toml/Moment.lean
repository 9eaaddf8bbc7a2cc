import EpisodeGuide.Text.Digit

/-!
Dates and times of TOML: a date, a time of day, or both with or without an offset. Every date is one
of the calendar.
-/

namespace EpisodeGuide.Toml

open Text

structure Date where
  year : Nat
  month : Nat
  day : Nat
  deriving DecidableEq, Repr

structure Time where
  hour : Nat
  minute : Nat
  second : Nat
  fraction : List Nat
  deriving DecidableEq, Repr

/-- A moment: at least one of its parts is there. The offset is in minutes. -/
structure Moment where
  date : Option Date
  time : Option Time
  offset : Option Int
  deriving DecidableEq, Repr

def isLeapYear (year : Nat) : Bool :=
  year % 4 == 0 && (year % 100 != 0 || year % 400 == 0)

def daysIn (year month : Nat) : Nat :=
  if month == 2 then if isLeapYear year then 29 else 28
  else if [4, 6, 9, 11].contains month then 30
  else 31

def takeFixed (count : Nat) (s : List Char) : Option (Nat × List Char) :=
  if (s.take count).length = count then
    ((s.take count).mapM digit?).map fun digits => (ofDigits 10 digits, s.drop count)
  else none

def takeChar (c : Char) : List Char → Option (List Char)
  | d :: r => if c = d then some r else none
  | [] => none

def takeDate (s : List Char) : Option (Date × List Char) := do
  let (year, s) ← takeFixed 4 s
  let s ← takeChar '-' s
  let (month, s) ← takeFixed 2 s
  let s ← takeChar '-' s
  let (day, s) ← takeFixed 2 s
  if 1 ≤ month ∧ month ≤ 12 ∧ 1 ≤ day ∧ day ≤ daysIn year month then
    some (⟨year, month, day⟩, s)
  else none

def takeHourMinute (s : List Char) : Option ((Nat × Nat) × List Char) := do
  let (hour, s) ← takeFixed 2 s
  let s ← takeChar ':' s
  let (minute, s) ← takeFixed 2 s
  if hour ≤ 23 ∧ minute ≤ 59 then some ((hour, minute), s) else none

/-- Reads a point and at least one digit, if they are there. -/
def takeSecondFraction (s : List Char) : List Nat × List Char :=
  match s with
  | '.' :: r =>
    match takeDigits r with
    | ([], _) => ([], s)
    | read => read
  | _ => ([], s)

/-- Reads a time of day; the second may be a leap second. -/
def takeTime (s : List Char) : Option (Time × List Char) := do
  let ((hour, minute), s) ← takeHourMinute s
  let s ← takeChar ':' s
  let (second, s) ← takeFixed 2 s
  let (fraction, s) := takeSecondFraction s
  if second ≤ 60 then some (⟨hour, minute, second, fraction⟩, s) else none

def takeOffset : List Char → Option (Int × List Char)
  | [] => none
  | c :: r =>
    if c == 'Z' || c == 'z' then some (0, r)
    else if c == '+' || c == '-' then
      (takeHourMinute r).map fun ((hour, minute), rest) =>
        let n : Int := hour * 60 + minute
        (if c == '-' then -n else n, rest)
    else none

def takeTimeOfDay (s : List Char) : Option (Time × List Char) :=
  match s with
  | c :: r => if c == 'T' || c == 't' || c == ' ' then takeTime r else none
  | [] => none

def takeMoment (s : List Char) : Option (Moment × List Char) :=
  match takeDate s with
  | some (date, rest) =>
    match takeTimeOfDay rest with
    | some (time, rest) =>
      match takeOffset rest with
      | some (offset, rest) => some (⟨some date, some time, some offset⟩, rest)
      | none => some (⟨some date, some time, none⟩, rest)
    | none => some (⟨some date, none, none⟩, rest)
  | none => (takeTime s).map fun (time, rest) => (⟨none, some time, none⟩, rest)

end EpisodeGuide.Toml
