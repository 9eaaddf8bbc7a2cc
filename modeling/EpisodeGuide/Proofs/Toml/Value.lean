import EpisodeGuide.Proofs.Toml.Key
import EpisodeGuide.Proofs.Toml.Moment
import Mathlib.Data.List.DropRight

/-! # Values of TOML

What values look like, beside what they are. A reader takes every value within its limits up to its
end; beyond the limits it takes none of it, or stops where the line cannot end. -/

namespace EpisodeGuide.Toml

open EpisodeGuide.Text

/-- What a value is, as far as single values are told apart. -/
inductive Content where
  | text (s : String)
  | integer (i : ℤ)
  | other

def Node.content : Node → Content
  | .text s => .text s
  | .integer i => .integer i
  | _ => .other

def Content.text? : Content → Option String
  | .text s => some s
  | _ => none

def Content.integer? : Content → Option ℤ
  | .integer i => some i
  | _ => none

/-- A content that a reader can hold: integers have 64 bits. -/
def Content.Held : Content → Prop
  | .integer i => Word.fitsSigned64 i = true
  | _ => True

/-- A node that holds a content. -/
structure Node.Holds (n : Node) (content : Content) : Prop where
  content_eq : n.content = content
  held : content.Held

/-- What a part of a document is: a value with room for as many levels of nesting, the items of an
array behind its bracket, or the members of an inline table behind its brace. -/
inductive Part where
  | value (room : ℕ) (content : Content)
  | items (room : ℕ)
  | members (room : ℕ) (keys : List (List String × String))

/-- What the parts look like. The limits of readers hold if `limited` does. -/
inductive Spells (limited : Prop) : List Char → Part → Prop where
  | text {room s t} : TextValue s t → Spells limited s (.value room (.text (String.ofList t)))
  | integer {room s i} : IntegerText s i → (limited → Word.fitsSigned64 i = true) →
      Spells limited s (.value room (.integer i))
  | real {room s x} : RealText s x → (limited → x.Held) → Spells limited s (.value room .other)
  | yes {room} : Spells limited ['t', 'r', 'u', 'e'] (.value room .other)
  | no {room} : Spells limited ['f', 'a', 'l', 's', 'e'] (.value room .other)
  | moment {room s} : MomentText s → Spells limited s (.value room .other)
  | array {room s} : (limited → 0 < room) → Spells limited s (.items (room - 1)) →
      Spells limited ('[' :: s) (.value room .other)
  | emptyTable {room gap} : (limited → 0 < room) → IsGap gap →
      Spells limited ('{' :: (gap ++ ['\x7d'])) (.value room .other)
  | table {room s keys} : (limited → 0 < room) → Spells limited s (.members (room - 1) keys) →
      Spells limited ('{' :: s) (.value room .other)
  | noItem {room gap} : Between gap → Spells limited (gap ++ [']']) (.items room)
  | lastItem {room gap v content gap'} : Between gap → Spells limited v (.value room content) →
      Between gap' → Spells limited (gap ++ (v ++ (gap' ++ [']']))) (.items room)
  | item {room gap v content gap' s} : Between gap → Spells limited v (.value room content) →
      Between gap' → Spells limited s (.items room) →
      Spells limited (gap ++ (v ++ (gap' ++ ',' :: s))) (.items room)
  | lastMember {room k key v content gap} : KeyEquals k key →
      (limited → key.1.length < maxKeyParts) → Spells limited v (.value room content) → IsGap gap →
      Spells limited (k ++ (v ++ (gap ++ ['\x7d']))) (.members room [key])
  | member {room k key v content gap s keys} : KeyEquals k key →
      (limited → key.1.length < maxKeyParts) → Spells limited v (.value room content) → IsGap gap →
      (∀ key' ∈ keys, Apart key key') → Spells limited s (.members room keys) →
      Spells limited (k ++ (v ++ (gap ++ ',' :: s))) (.members room (key :: keys))

/-! ### The first characters of values -/

/-- The characters that numbers, dates and times start with. -/
def numberHeads : List Char :=
  ['0', '1', '2', '3', '4', '5', '6', '7', '8', '9', '+', '-', 'i', 'n']

section

variable {limited : Prop} {c : Char} {d room steps : ℕ} {s w v gap rest : List Char}
  {content : Content}

theorem mem_numberHeads_of_digit? (h : digit? c = some d) : c ∈ numberHeads := by
  have hrange : '0' ≤ c ∧ c ≤ '9' := by
    by_contra hne
    simp [digit?, hne] at h
  have hdigits : ∀ n < 58, 48 ≤ n → Char.ofNat n ∈ numberHeads := by decide
  have hc := hdigits c.toNat (Nat.lt_succ_of_le hrange.2) hrange.1
  rwa [Char.ofNat_toNat] at hc

theorem SignText.head {sign : List Char} {negative : Bool} (h : SignText sign negative)
    (hs : ∃ c r, s = c :: r ∧ c ∈ numberHeads) : ∃ c r, sign ++ s = c :: r ∧ c ∈ numberHeads := by
  cases h with
  | none => exact hs
  | plus | minus => exact ⟨_, _, rfl, by decide⟩

theorem WholeText.head {ds : List ℕ} (h : WholeText w ds) (s : List Char) :
    ∃ c r, w ++ s = c :: r ∧ c ∈ numberHeads := by
  obtain ⟨c, d, r, heq, hc⟩ := h.spacedDigits.head s
  exact ⟨c, r, heq, mem_numberHeads_of_digit? hc⟩

theorem IntegerText.head {i : ℤ} (h : IntegerText s i) : ∃ c r, s = c :: r ∧ c ∈ numberHeads := by
  cases h with
  | decimal hsign hw => exact hsign.head (by simpa using hw.head [])
  | based => exact ⟨_, _, rfl, by decide⟩

theorem RealText.head {x : RealNumber} (h : RealText s x) :
    ∃ c r, s = c :: r ∧ c ∈ numberHeads := by
  cases h with
  | decimal hsign hw => exact hsign.head (hw.head _)
  | infinite hsign | undefined hsign => exact hsign.head ⟨_, _, rfl, by decide⟩

theorem FixedDigits.head {count n : ℕ} (h : FixedDigits count w n) (hcount : 0 < count)
    (s : List Char) : ∃ c r, w ++ s = c :: r ∧ c ∈ numberHeads := by
  obtain ⟨rfl, ds, hds, -⟩ := h
  obtain ⟨c, r, rfl⟩ := List.exists_cons_of_length_pos hcount
  have hall := (filterMap_of_mapM hds).2.1
  obtain ⟨d, hd⟩ := Option.isSome_iff_exists.mp (hall c (by simp))
  exact ⟨c, r ++ s, rfl, mem_numberHeads_of_digit? hd⟩

theorem DateText.head (h : DateText w) (s : List Char) :
    ∃ c r, w ++ s = c :: r ∧ c ∈ numberHeads := by
  cases h with
  | date hy => rw [List.append_assoc]; exact hy.head (by decide) _

theorem TimeText.head (h : TimeText w) : ∃ c r, w = c :: r ∧ c ∈ numberHeads := by
  cases h with
  | time hhm =>
      cases hhm with
      | hourMinute hh => rw [List.append_assoc]; exact hh.head (by decide) _

theorem MomentText.head (h : MomentText s) : ∃ c r, s = c :: r ∧ c ∈ numberHeads := by
  cases h with
  | date hw => simpa using hw.head []
  | time hw => exact hw.head
  | dateTime hw | offset hw => exact hw.head _

theorem TextValue.head {t : List Char} (h : TextValue s t) :
    ∃ c r, s = c :: r ∧ (c = '"' ∨ c = '\'') := by
  cases h with
  | line hs =>
      cases hs with
      | basic => exact ⟨_, _, rfl, .inl rfl⟩
      | literal => exact ⟨_, _, rfl, .inr rfl⟩
  | basicLines => exact ⟨_, _, rfl, .inl rfl⟩
  | literalLines => exact ⟨_, _, rfl, .inr rfl⟩

def valueHeads : List Char :=
  '"' :: '\'' :: 't' :: 'f' :: '[' :: '{' :: numberHeads

theorem Spells.head (h : Spells limited s (.value room content)) :
    ∃ c r, s = c :: r ∧ c ∈ valueHeads := by
  have hnumber (h : ∃ c r, s = c :: r ∧ c ∈ numberHeads) : ∃ c r, s = c :: r ∧ c ∈ valueHeads := by
    obtain ⟨c, r, rfl, hc⟩ := h
    exact ⟨c, r, rfl, by simp [valueHeads, hc]⟩
  cases h with
  | text hs =>
      obtain ⟨c, r, rfl, hc⟩ := hs.head
      exact ⟨c, r, rfl, by rcases hc with rfl | rfl <;> decide⟩
  | integer hs => exact hnumber hs.head
  | real hs => exact hnumber hs.head
  | moment hs => exact hnumber hs.head
  | yes | no | array | emptyTable | table => exact ⟨_, _, rfl, by decide⟩

theorem Spells.head_not_space (h : Spells limited s (.value room content)) (rest : List Char) :
    ∀ c ∈ (s ++ rest).head?, isSpace c = false := by
  obtain ⟨c, r, rfl, hc⟩ := h.head
  have hspace : ∀ c ∈ valueHeads, isSpace c = false := forall_mem_of_all (by decide)
  simpa using hspace c hc

/-! ### Values without others inside -/

theorem takeText_of_head (h : ∀ c ∈ s.head?, c ≠ '"' ∧ c ≠ '\'') : takeText s = none := by
  cases s with
  | nil => rfl
  | cons c r =>
      obtain ⟨hquote, hquote'⟩ := h c rfl
      rw [takeText.eq_def]
      split
      · simp_all
      · simp_all
      · rw [takeQuoted.eq_def]
        split <;> simp_all

theorem takeScalar_of_head (h : ∀ c ∈ s.head?, c ≠ 't' ∧ c ≠ 'f') :
    takeScalar s = match takeText s with
      | some (text, rest) => some (.text (String.ofList text), rest)
      | none => takeNumeric s := by
  rw [takeScalar.eq_def]
  split
  · simp at h
  · simp at h
  · rfl

theorem takeScalar_of_number (hs : ∃ c r, s = c :: r ∧ c ∈ numberHeads) (rest : List Char) :
    takeScalar (s ++ rest) = takeNumeric (s ++ rest) := by
  obtain ⟨c, r, rfl, hc⟩ := hs
  have hhead : ∀ c ∈ numberHeads, (c ≠ 't' ∧ c ≠ 'f') ∧ c ≠ '"' ∧ c ≠ '\'' :=
    forall_mem_of_all (by decide)
  obtain ⟨hword, hquote⟩ := hhead c hc
  rw [takeScalar_of_head (by simpa using hword), takeText_of_head (by simpa using hquote)]

theorem takeScalar_text {t : List Char} (h : TextValue s t) (hrest : Ends rest) :
    takeScalar (s ++ rest) = some (.text (String.ofList t), rest) := by
  have hread := takeText_of_textValue h (hrest.forall_head (by decide))
  obtain ⟨c, r, rfl, hc⟩ := h.head
  rw [takeScalar_of_head (by rcases hc with rfl | rfl <;> simp), hread]

theorem takeScalar_integer {i : ℤ} (h : IntegerText s i) (hrest : Ends rest) :
    takeScalar (s ++ rest) = (narrow? i).map fun i => (.integer i, rest) := by
  rw [takeScalar_of_number h.head, takeNumeric,
    takeMoment_of_noMoment (noMoment_of_integerText h hrest), takeReal_of_integerText h hrest,
    takeInteger_of_integerText h hrest, Option.map_map]
  rfl

theorem exists_takeScalar_moment (h : MomentText s) (hrest : Ends rest) :
    ∃ m, takeScalar (s ++ rest) = some (.moment m, rest) := by
  obtain ⟨m, hm⟩ := exists_takeMoment h hrest
  exact ⟨m, by rw [takeScalar_of_number h.head, takeNumeric, hm]⟩

theorem exists_takeScalar_real {x : RealNumber} (h : RealText s x) (hheld : x.Held)
    (hrest : Ends rest) : ∃ x', takeScalar (s ++ rest) = some (.real x', rest) := by
  obtain ⟨x', hx⟩ := exists_takeReal h hheld hrest
  exact ⟨x', by
    rw [takeScalar_of_number h.head, takeNumeric,
      takeMoment_of_noMoment (noMoment_of_realText h rest), hx]⟩

/-! ### Reading up to the end, or not at all -/

/-- How a part is read. Within the limits it is read up to its end, as something good; beyond them
the reading fails, or stops within a number. -/
def Outcome (limited : Prop) {α : Type} (good : α → Prop) (rest : List Char)
    (result : Option (α × List Char)) : Prop :=
  (∃ a, result = some (a, rest) ∧ good a) ∨
    ¬ limited ∧ ∀ a r, result = some (a, r) → ∃ c r', r = c :: r' ∧ c ∈ ['.', 'e', 'E']

section Outcome

variable {α β : Type} {good : α → Prop} {good' : β → Prop} {rest' : List Char}
  {result : Option (α × List Char)}

theorem Outcome.of_eq {a : α} (h : result = some (a, rest)) (ha : good a) :
    Outcome limited good rest result :=
  .inl ⟨a, h, ha⟩

theorem Outcome.none (h : ¬ limited) : Outcome limited good rest none :=
  .inr ⟨h, nofun⟩

theorem Outcome.bind (h : Outcome limited good rest result)
    {next : α × List Char → Option (β × List Char)}
    (hnext : ∀ a, good a → Outcome limited good' rest' (next (a, rest)))
    (hstop : ∀ a c r, c ∈ ['.', 'e', 'E'] → next (a, c :: r) = .none) :
    Outcome limited good' rest' (result.bind next) := by
  rcases h with ⟨a, rfl, ha⟩ | ⟨hbeyond, hinside⟩
  · exact hnext a ha
  · cases result with
    | none => exact .none hbeyond
    | some read =>
        obtain ⟨c, r, hr, hc⟩ := hinside read.1 read.2 rfl
        have hnone : next read = .none := by rw [← hstop read.1 c r hc, ← hr]
        rw [Option.bind_some, hnone]
        exact .none hbeyond

theorem Outcome.map (h : Outcome limited good rest result) {f : α → β}
    (hf : ∀ a, good a → good' (f a)) :
    Outcome limited good' rest (result.map fun (a, rest) => (f a, rest)) := by
  rcases h with ⟨a, rfl, ha⟩ | ⟨hbeyond, hinside⟩
  · exact .of_eq rfl (hf a ha)
  · refine .inr ⟨hbeyond, fun b r heq => ?_⟩
    obtain ⟨read, rfl, hread⟩ := Option.map_eq_some_iff.mp heq
    exact hinside read.1 r (by rw [← (Prod.mk.inj hread).2])

end Outcome

/-- What reading a part yields. -/
def Part.IsRead (limited : Prop) (s : List Char) : Part → Prop
  | .value room content => ∀ steps rest, 2 * s.length < steps → Ends rest →
      Outcome limited (fun n : Node => n.Holds content) rest (takeValue steps room (s ++ rest))
  | .items room => ∀ steps rest, 2 * s.length < steps →
      Outcome limited (fun _ : List Node => True) rest (takeItems steps room (s ++ rest))
  | .members room keys => ∀ steps rest (found : Members), 2 * s.length < steps →
      (∀ key ∈ keys, found.FreeIn key.2 key.1) →
      Outcome limited (fun _ : Members => True) rest (takeMembers steps room found (s ++ rest))

/-- A real number beyond the limits is not read up to its end. -/
theorem outcome_takeScalar_real {x : RealNumber} (h : RealText s x) (hheld : limited → x.Held)
    (hrest : Ends rest) :
    Outcome limited (fun n : Node => n.Holds .other) rest (takeScalar (s ++ rest)) := by
  by_cases hx : x.Held
  · obtain ⟨x', hread⟩ := exists_takeScalar_real h hx hrest
    exact .of_eq hread ⟨rfl, trivial⟩
  refine .inr ⟨fun hlimited => hx (hheld hlimited), fun n r hread => ?_⟩
  rw [takeScalar_of_number h.head, takeNumeric,
    takeMoment_of_noMoment (noMoment_of_realText h rest)] at hread
  cases h with
  | infinite | undefined => exact (hx trivial).elim
  | @decimal sign negative w ds p fraction e hsign hw hp =>
      have hstop := stopsDigits_of_realPart hp rest
      obtain ⟨c, r', rfl, hc⟩ := hp.head
      have hmark : ∀ x ∈ (c :: r' ++ rest).head?, x ∉ ['x', 'o', 'b'] := by
        have hbase : ∀ c ∈ ['.', 'e', 'E'], c ∉ ['x', 'o', 'b'] := forall_mem_of_all (by decide)
        simpa using hbase c hc
      have hfinite : negative = false ∧
          ¬ isFinite (ds ++ fraction) (e - fraction.length) = true := by
        cases negative with
        | true => exact (hx trivial).elim
        | false => exact ⟨rfl, hx⟩
      simp only [List.append_assoc] at hread
      rw [takeReal_decimal hsign hw hstop, takeRealPart_of_realPart hp hrest,
        takeInteger_decimal hsign hw hstop hmark, Option.bind_some] at hread
      simp only [hfinite, if_false, Bool.false_eq_true] at hread
      cases hnarrow : narrow? (signed false (ofDigits 10 ds)) with
      | none => simp [hnarrow] at hread
      | some i =>
          simp only [hnarrow, Option.map_some, Option.some.injEq, Prod.mk.injEq] at hread
          exact ⟨c, r' ++ rest, hread.2.symm, hc⟩

/-! ### Arrays and inline tables -/

/-- Without room, nothing that holds other values is read. -/
theorem takeValue_no_room (hc : c = '[' ∨ c = '{') (steps : ℕ) (s : List Char) :
    takeValue (steps + 1) 0 (c :: s) = none := by
  have hmoment : takeMoment (c :: s) = none :=
    takeMoment_of_noMoment (noMoment_of_head
      (by rcases hc with rfl | rfl <;> simp [isDigit, digit?]))
  rcases hc with rfl | rfl <;>
    simp [takeValue, takeScalar, takeText, takeQuoted, takeNumeric, hmoment, takeReal, takeInteger,
      takeSign, takeWhole, takeSpacedDigits, digit?]

theorem takeValue_scalar (h : ∀ c ∈ s.head?, c ≠ '[' ∧ c ≠ '{') (steps room : ℕ) :
    takeValue (steps + 1) room s = takeScalar s := by
  rw [takeValue.eq_def]
  split
  · contradiction
  · next heq =>
    cases heq
    split
    · simp at h
    · simp at h
    · rfl

theorem takeValue_number (hs : ∃ c r, s = c :: r ∧ c ∈ numberHeads) (steps room : ℕ)
    (rest : List Char) : takeValue (steps + 1) room (s ++ rest) = takeScalar (s ++ rest) := by
  obtain ⟨c, r, rfl, hc⟩ := hs
  have hopen : ∀ c ∈ numberHeads, c ≠ '[' ∧ c ≠ '{' := forall_mem_of_all (by decide)
  exact takeValue_scalar (by simpa using hopen c hc) steps room

/-- A value that holds others is read by what stands behind its first character, if there is
room. -/
theorem Outcome.nested {α : Type} {result : Option (α × List Char)} {f : α → Node}
    (h : 0 < room → Outcome limited (fun _ => True) rest result) (hroom : limited → 0 < room)
    (hc : c = '[' ∨ c = '{') (hread : 0 < room →
      takeValue (steps + 1) room (c :: s) = result.map fun (a, rest) => (f a, rest))
    (hf : ∀ a, (f a).Holds content) :
    Outcome limited (fun n : Node => n.Holds content) rest
      (takeValue (steps + 1) room (c :: s)) := by
  rcases Nat.eq_zero_or_pos room with rfl | hpos
  · rw [takeValue_no_room hc]
    exact .none fun hlimited => absurd (hroom hlimited) (by decide)
  · rw [hread hpos]
    exact (h hpos).map fun a _ => hf a

theorem takeItems_noItem (h : Between gap) (steps room : ℕ) (rest : List Char) :
    takeItems (steps + 1) room (gap ++ ']' :: rest) = some ([], rest) := by
  rw [takeItems, skipBetween_append h (by decide), Option.bind_some]
  rfl

def itemEnd (steps room : ℕ) (v : Node) (rest : List Char) : Option (List Node × List Char) :=
  (skipBetween false rest).bind fun rest =>
    match rest with
    | ',' :: rest => (takeItems steps room rest).map fun (vs, rest) => (v :: vs, rest)
    | ']' :: rest => some ([v], rest)
    | _ => none

theorem takeItems_value (h : Between gap) (hv : Spells limited v (.value room content))
    (steps : ℕ) (rest : List Char) :
    takeItems (steps + 1) room (gap ++ (v ++ rest)) =
      (takeValue steps room (v ++ rest)).bind fun (n, rest) => itemEnd steps room n rest := by
  obtain ⟨c, r, rfl, hc⟩ := hv.head
  have hhead : ∀ c ∈ valueHeads, (isSpace c = false ∧ c ≠ '\n' ∧ c ≠ '#') ∧ c ≠ ']' :=
    forall_mem_of_all (by decide)
  obtain ⟨hskip, hclose⟩ := hhead c hc
  rw [takeItems, List.cons_append, skipBetween_append h hskip, Option.bind_some]
  split
  · next heq => exact (hclose (List.cons.inj heq).1).elim
  · rfl

theorem skip_inside (hc : c ∈ ['.', 'e', 'E']) (r : List Char) :
    skipSpaces (c :: r) = c :: r ∧ skipBetween false (c :: r) = some (c :: r) := by
  have hskip : ∀ c ∈ ['.', 'e', 'E'], isSpace c = false ∧ c ≠ '\n' ∧ c ≠ '#' :=
    forall_mem_of_all (by decide)
  exact ⟨skipSpaces_of_head (by simpa using (hskip c hc).1), skipBetween_append .nil (hskip c hc)⟩

theorem itemEnd_inside (hc : c ∈ ['.', 'e', 'E']) (steps room : ℕ) (v : Node) (r : List Char) :
    itemEnd steps room v (c :: r) = none := by
  rw [itemEnd, (skip_inside hc r).2, Option.bind_some]
  split
  · next heq => exact absurd ((List.cons.inj heq).1 ▸ hc) (by decide)
  · next heq => exact absurd ((List.cons.inj heq).1 ▸ hc) (by decide)
  · rfl

def memberEnd (steps room : ℕ) (key : List String × String) (found : Members) (v : Node)
    (rest : List Char) : Option (Members × List Char) :=
  (found.addDotted? key.2 v key.1).bind fun found =>
    match skipSpaces rest with
    | ',' :: rest => takeMembers steps room found rest
    | '\x7d' :: rest => some (found, rest)
    | _ => none

theorem takeMembers_member {k : List Char} {key : List String × String} (hk : KeyEquals k key)
    (hlength : key.1.length < maxKeyParts) (hv : Spells limited v (.value room content))
    (steps : ℕ) (found : Members) (rest : List Char) :
    takeMembers (steps + 1) room found (k ++ (v ++ rest)) =
      (takeValue steps room (v ++ rest)).bind fun (n, rest) =>
        memberEnd steps room key found n rest := by
  rw [takeMembers, takeKeyEquals_of_keyEquals hk (hv.head_not_space rest), if_pos hlength]
  rfl

theorem memberEnd_inside (hc : c ∈ ['.', 'e', 'E']) (steps room : ℕ) (key : List String × String)
    (found : Members) (v : Node) (r : List Char) :
    memberEnd steps room key found v (c :: r) = none := by
  rw [memberEnd, (skip_inside hc r).1]
  cases found.addDotted? key.2 v key.1 with
  | none => rfl
  | some found =>
      rw [Option.bind_some]
      split
      · next heq => exact absurd ((List.cons.inj heq).1 ▸ hc) (by decide)
      · next heq => exact absurd ((List.cons.inj heq).1 ▸ hc) (by decide)
      · rfl

theorem itemEnd_last (h : Between gap) (steps room : ℕ) (n : Node) (rest : List Char) :
    itemEnd steps room n (gap ++ ']' :: rest) = some ([n], rest) := by
  rw [itemEnd, skipBetween_append h (by decide)]
  rfl

theorem itemEnd_more (h : Between gap) (steps room : ℕ) (n : Node) (rest : List Char) :
    itemEnd steps room n (gap ++ ',' :: rest) =
      (takeItems steps room rest).map fun (ns, rest) => (n :: ns, rest) := by
  rw [itemEnd, skipBetween_append h (by decide)]
  rfl

theorem memberEnd_last {key : List String × String} {found found' : Members} {n : Node}
    (hadd : found.addDotted? key.2 n key.1 = some found') (h : IsGap gap) (steps room : ℕ)
    (rest : List Char) :
    memberEnd steps room key found n (gap ++ '\x7d' :: rest) = some (found', rest) := by
  rw [memberEnd, hadd, Option.bind_some, skipSpaces_gap h (by decide)]
  rfl

theorem memberEnd_more {key : List String × String} {found found' : Members} {n : Node}
    (hadd : found.addDotted? key.2 n key.1 = some found') (h : IsGap gap) (steps room : ℕ)
    (rest : List Char) :
    memberEnd steps room key found n (gap ++ ',' :: rest) = takeMembers steps room found' rest := by
  rw [memberEnd, hadd, Option.bind_some, skipSpaces_gap h (by decide)]
  rfl

/-- The members of an inline table start with a key. -/
theorem Spells.members_head {keys : List (List String × String)}
    (h : Spells limited s (.members room keys)) :
    ∃ c r, StartsKey c ∧ ∀ rest, skipSpaces (s ++ rest) = c :: (r ++ rest) := by
  obtain ⟨k, key, t, rfl, hk⟩ : ∃ k key t, s = k ++ t ∧ KeyEquals k key := by
    cases h with
    | lastMember hk | member hk => exact ⟨_, _, _, rfl, hk⟩
  obtain ⟨c, r, hc, -, hskip⟩ := hk.skipSpaces
  exact ⟨c, r ++ t, hc, fun rest => by rw [List.append_assoc, List.append_assoc, hskip]⟩

theorem takeMembers_skipSpaces (steps room : ℕ) (found : Members) (s : List Char) :
    takeMembers steps room found (skipSpaces s) = takeMembers steps room found s := by
  have hskip : skipSpaces (skipSpaces s) = skipSpaces s := List.dropWhile_idempotent isSpace s
  have hkey : takeKeyEquals (skipSpaces s) = takeKeyEquals s := by
    rw [takeKeyEquals, takeKeyEquals, takeKey, takeKey, maxKeyParts, takeKeyParts, hskip]
    rfl
  cases steps with
  | zero => rfl
  | succ steps => rw [takeMembers, hkey, takeMembers]

theorem takeValue_table {keys : List (List String × String)}
    (h : Spells limited s (.members room keys)) (steps : ℕ) (rest : List Char) :
    takeValue (steps + 1) (room + 1) ('{' :: (s ++ rest)) =
      (takeMembers steps room [] (s ++ rest)).map fun (ms, rest) => (.table .inline ms, rest) := by
  obtain ⟨c, r, hc, hskip⟩ := h.members_head
  rw [takeValue, ← takeMembers_skipSpaces, hskip]
  split
  · next heq =>
    obtain rfl : c = '\x7d' := (List.cons.inj heq).1
    exact absurd hc (by unfold StartsKey; decide)
  · rfl

/-- A member is read as its key, its value and what follows. -/
theorem Outcome.member {k : List Char} {key : List String × String} {rest' : List Char}
    (h : Outcome limited (fun n : Node => n.Holds content) rest (takeValue steps room (v ++ rest)))
    (hk : KeyEquals k key) (hlength : limited → key.1.length < maxKeyParts)
    (hv : Spells limited v (.value room content)) (found : Members)
    (hnext : ∀ n, Outcome limited (fun _ : Members => True) rest'
      (memberEnd steps room key found n rest)) :
    Outcome limited (fun _ : Members => True) rest'
      (takeMembers (steps + 1) room found (k ++ (v ++ rest))) := by
  by_cases hkey : key.1.length < maxKeyParts
  · rw [takeMembers_member hk hkey hv]
    exact h.bind (fun n _ => hnext n) fun n c r hc => memberEnd_inside hc steps room key found n r
  · rw [takeMembers, takeKeyEquals_of_keyEquals hk (hv.head_not_space rest), if_neg hkey]
    exact .none fun hlimited => hkey (hlength hlimited)

/-- Whatever is written is read: within the limits as what it is, beyond them not up to its end. -/
theorem spells_isRead {part : Part} (h : Spells limited s part) : part.IsRead limited s := by
  have hsucc {n steps : ℕ} (h : n < steps) : ∃ k, steps = k + 1 :=
    ⟨steps - 1, by omega⟩
  induction h with
  | @text room s t hs =>
      intro steps rest hsteps hrest
      obtain ⟨steps, rfl⟩ := hsucc hsteps
      obtain ⟨c, r, rfl, hc⟩ := hs.head
      rw [takeValue_scalar (by rcases hc with rfl | rfl <;> simp), takeScalar_text hs hrest]
      exact .of_eq rfl ⟨rfl, trivial⟩
  | @integer room s i hs hfits =>
      intro steps rest hsteps hrest
      obtain ⟨steps, rfl⟩ := hsucc hsteps
      rw [takeValue_number hs.head, takeScalar_integer hs hrest, narrow?]
      split
      · next hnarrow => exact .of_eq rfl ⟨rfl, hnarrow⟩
      · next hnarrow => exact .none fun hlimited => hnarrow (hfits hlimited)
  | real hs hheld =>
      intro steps rest hsteps hrest
      obtain ⟨steps, rfl⟩ := hsucc hsteps
      rw [takeValue_number hs.head]
      exact outcome_takeScalar_real hs hheld hrest
  | yes | no =>
      intro steps rest hsteps hrest
      obtain ⟨steps, rfl⟩ := hsucc hsteps
      exact .of_eq (takeValue_scalar (by simp) _ _) ⟨rfl, trivial⟩
  | moment hs =>
      intro steps rest hsteps hrest
      obtain ⟨steps, rfl⟩ := hsucc hsteps
      obtain ⟨m, hread⟩ := exists_takeScalar_moment hs hrest
      exact .of_eq ((takeValue_number hs.head _ _ _).trans hread) ⟨rfl, trivial⟩
  | @array room s hroom _ ih =>
      intro steps rest hsteps _
      obtain ⟨steps, rfl⟩ := hsucc hsteps
      simp only [List.length_cons] at hsteps
      refine .nested (f := Node.array) (fun _ => ih steps rest (by omega)) hroom (.inl rfl) ?_
        fun _ => ⟨rfl, trivial⟩
      intro hpos
      obtain ⟨room, rfl⟩ := hsucc hpos
      rfl
  | @emptyTable room gap hroom hgap =>
      intro steps rest hsteps _
      obtain ⟨steps, rfl⟩ := hsucc hsteps
      have hread : Outcome limited (fun _ : Members => True) rest (some (([] : Members), rest)) :=
        .of_eq rfl trivial
      refine .nested (f := Node.table .inline) (fun _ => hread) hroom (.inr rfl) ?_
        fun _ => ⟨rfl, trivial⟩
      intro hpos
      obtain ⟨room, rfl⟩ := hsucc hpos
      have hskip : skipSpaces (gap ++ '\x7d' :: rest) = '\x7d' :: rest :=
        skipSpaces_gap hgap (by decide) rest
      simp [takeValue, hskip]
  | @table room s keys hroom hs ih =>
      intro steps rest hsteps _
      obtain ⟨steps, rfl⟩ := hsucc hsteps
      simp only [List.length_cons] at hsteps
      refine .nested (f := Node.table .inline)
        (fun _ => ih steps rest [] (by omega) fun key _ => Members.freeIn_nil key.2 key.1)
        hroom (.inr rfl) ?_
        fun _ => ⟨rfl, trivial⟩
      intro hpos
      obtain ⟨room, rfl⟩ := hsucc hpos
      exact takeValue_table hs steps rest
  | @noItem room gap hgap =>
      intro steps rest hsteps
      obtain ⟨steps, rfl⟩ := hsucc hsteps
      exact .of_eq (by simpa using takeItems_noItem hgap steps room rest) trivial
  | @lastItem room gap v content gap' hgap hv hgap' ih =>
      intro steps rest hsteps
      obtain ⟨steps, rfl⟩ := hsucc hsteps
      simp only [List.length_append, List.length_cons] at hsteps
      have hread := ih steps (gap' ++ ']' :: rest) (by omega) (hgap'.ends (by decide) rest)
      simp only [List.append_assoc, List.cons_append, List.nil_append]
      rw [takeItems_value hgap hv]
      refine hread.bind (fun n _ => ?_) fun n c r hc => itemEnd_inside hc steps room n r
      exact .of_eq (itemEnd_last hgap' steps room n rest) trivial
  | @item room gap v content gap' s hgap hv hgap' _ ih ihs =>
      intro steps rest hsteps
      obtain ⟨steps, rfl⟩ := hsucc hsteps
      simp only [List.length_append, List.length_cons] at hsteps
      have hread := ih steps (gap' ++ ',' :: (s ++ rest)) (by omega) (hgap'.ends (by decide) _)
      simp only [List.append_assoc, List.cons_append]
      rw [takeItems_value hgap hv]
      refine hread.bind (fun n _ => ?_) fun n c r hc => itemEnd_inside hc steps room n r
      dsimp only
      rw [itemEnd_more hgap']
      exact (ihs steps rest (by omega)).map fun _ _ => trivial
  | @lastMember room k key v content gap hk hlength hv hgap ih =>
      intro steps rest found hsteps hfree
      obtain ⟨steps, rfl⟩ := hsucc hsteps
      simp only [List.length_append, List.length_cons] at hsteps
      have hread := ih steps (gap ++ '\x7d' :: rest) (by omega)
        (.gap_append hgap (.of_stopper (by decide) rest))
      simp only [List.append_assoc, List.cons_append, List.nil_append]
      refine hread.member hk hlength hv found fun n => ?_
      obtain ⟨found', hadd⟩ := (hfree key (by simp)).exists_addDotted? n
      exact .of_eq (memberEnd_last hadd hgap steps room rest) trivial
  | @member room k key v content gap s keys hk hlength hv hgap hapart _ ih ihs =>
      intro steps rest found hsteps hfree
      obtain ⟨steps, rfl⟩ := hsucc hsteps
      simp only [List.length_append, List.length_cons] at hsteps
      have hread := ih steps (gap ++ ',' :: (s ++ rest)) (by omega)
        (.gap_append hgap (.of_stopper (by decide) _))
      simp only [List.append_assoc, List.cons_append]
      refine hread.member hk hlength hv found fun n => ?_
      obtain ⟨hkey, hkeys⟩ := List.forall_mem_cons.mp hfree
      obtain ⟨found', hadd⟩ := hkey.exists_addDotted? n
      rw [memberEnd_more hadd hgap]
      exact ihs steps rest found' (by omega) fun key' hmem =>
        (hkeys key' hmem).addDotted? (hapart key' hmem) hadd

end

end EpisodeGuide.Toml
