import EpisodeGuide.Json.Fields
import Mathlib

/-! # Members of objects

What stands under a key of an object, in its order. A record takes the only value of each of its
fields, and an object that is kept takes the last value of each key. -/

namespace EpisodeGuide.Json

/-- The members of an object as they are written, with their repetitions. -/
abbrev Members : Type :=
  List (List Piece × Document)

def valuesOf (key : String) (ms : Members) : List Document :=
  ms.filterMap fun m => if Piece.text? m.1 = some key then some m.2 else none

def hasTextKeys (ms : Members) : Bool :=
  ms.all fun m => (Piece.text? m.1).isSome

variable {key name : String} {names : List String} {k : List Piece} {d : Document}
  {ms ns : Members} {slot : Option Document} {slots : List (Option Document)}

@[simp] theorem valuesOf_nil (key : String) : valuesOf key [] = [] := rfl

@[simp] theorem valuesOf_append (key : String) (ms ns : Members) :
    valuesOf key (ms ++ ns) = valuesOf key ms ++ valuesOf key ns :=
  List.filterMap_append

theorem valuesOf_cons_of_eq (h : Piece.text? k = some key) :
    valuesOf key ((k, d) :: ms) = d :: valuesOf key ms := by
  simp [valuesOf, h]

theorem valuesOf_cons_of_ne (h : Piece.text? k ≠ some key) :
    valuesOf key ((k, d) :: ms) = valuesOf key ms := by
  simp [valuesOf, h]

theorem valuesOf_perm (h : ms.Perm ns) (key : String) :
    (valuesOf key ms).Perm (valuesOf key ns) :=
  h.filterMap _

theorem hasTextKeys_cons :
    hasTextKeys ((k, d) :: ms) = ((Piece.text? k).isSome && hasTextKeys ms) :=
  List.all_cons

theorem hasTextKeys_append : hasTextKeys (ms ++ ns) = (hasTextKeys ms && hasTextKeys ns) :=
  List.all_append

theorem hasTextKeys_perm (h : ms.Perm ns) : hasTextKeys ms = hasTextKeys ns :=
  h.all_eq

/-! ### Fields of records -/

def sole? : List Document → Option (Option Document)
  | [] => some none
  | [d] => some (some d)
  | _ => none

theorem sole?_perm {ds es : List Document} (h : ds.Perm es) : sole? ds = sole? es := by
  match ds, es with
  | [], es => rw [h.nil_eq]
  | [d], es => rw [h.singleton_eq]
  | _ :: _ :: _, [] => simp at h
  | _ :: _ :: _, [e] => simp at h
  | _ :: _ :: _, _ :: _ :: _ => rfl

theorem sole?_eq_some_iff {ds : List Document} : sole? ds = some slot ↔ ds = slot.toList := by
  match ds, slot with
  | [], none | [], some _ | [_], none | _ :: _ :: _, none | _ :: _ :: _, some _ => simp [sole?]
  | [d], some e => simp [sole?]

theorem fillSlot_of_notMem (h : key ∉ names) (d : Document) (slots : List (Option Document)) :
    fillSlot key d names slots = some slots := by
  induction names generalizing slots with
  | nil => cases slots <;> rfl
  | cons name names ih =>
      obtain ⟨hname, hnames⟩ := List.ne_and_not_mem_of_not_mem_cons h
      cases slots with
      | nil => rfl
      | cons slot slots => simp [fillSlot, hname.symm, ih hnames]

theorem fillSlots_nil (ms : Members) (slots : List (Option Document)) :
    fillSlots [] ms slots = if hasTextKeys ms then some slots else none := by
  induction ms with
  | nil => simp [fillSlots, hasTextKeys]
  | cons m ms ih =>
      obtain ⟨k, d⟩ := m
      rw [fillSlots]
      cases hk : Piece.text? k with
      | none => simp [hasTextKeys_cons, hk]
      | some key => simp [hasTextKeys_cons, hk, fillSlot, ih]

/-- The slots are filled each for itself: the first one by the members with its name. -/
theorem fillSlots_cons (h : name ∉ names) (ms : Members) (slot : Option Document)
    (slots : List (Option Document)) : fillSlots (name :: names) ms (slot :: slots) =
      (sole? (slot.toList ++ valuesOf name ms)).bind fun first =>
        (fillSlots names ms slots).map (first :: ·) := by
  -- A key fills the slot with its name, if that is empty, and leaves the other slots alone.
  induction ms generalizing slot slots with
  | nil => cases slot <;> rfl
  | cons m ms ih =>
      obtain ⟨k, d⟩ := m
      rw [fillSlots, fillSlots]
      cases hk : Piece.text? k with
      | none => simp
      | some key =>
          by_cases hname : name = key
          · subst hname
            rw [valuesOf_cons_of_eq hk]
            cases slot with
            | none => simp [fillSlot, fillSlot_of_notMem h, ih]
            | some x => simp [fillSlot, sole?]
          · have hother : Piece.text? k ≠ some name := by simp [hk, Ne.symm hname]
            rw [valuesOf_cons_of_ne hother]
            cases hfill : fillSlot key d names slots with
            | none => simp [fillSlot, hname, hfill]
            | some slots => simp [fillSlot, hname, hfill, ih]

/-- An object is a record exactly if its keys are texts and no field comes twice; each field has the
only value under its name. -/
theorem fields?_object (h : names.Nodup) (ms : Members) : (Document.object ms).fields? names =
    if hasTextKeys ms then names.mapM (fun name => sole? (valuesOf name ms)) else none := by
  rw [Document.fields?]
  induction names with
  | nil => exact fillSlots_nil ms []
  | cons name names ih =>
      obtain ⟨hname, hnames⟩ := List.nodup_cons.mp h
      rw [List.length_cons, List.replicate_succ, fillSlots_cons hname, ih hnames, List.mapM_cons]
      by_cases hkeys : hasTextKeys ms = true
      · simp only [if_pos hkeys, Option.bind_eq_bind, Option.pure_def, Option.map_eq_bind]
        rfl
      · simp [hkeys]

/-- What the values under the name of a field come to: the field may be missing or null. -/
def readField {α : Type} (read : Document → Option α) (values : List Document) :
    Option (Option α) :=
  (sole? values).bind (optional? read)

theorem oneField_object {α : Type} (read : Document → Option α) (name : String) (ms : Members) :
    (match (Document.object ms).fields? [name] with
      | some [slot] => optional? read slot
      | _ => none) = if hasTextKeys ms then readField read (valuesOf name ms) else none := by
  rw [fields?_object (List.nodup_singleton name)]
  by_cases hkeys : hasTextKeys ms = true
  · cases hsole : sole? (valuesOf name ms) <;> simp [hkeys, hsole, readField]
  · simp [hkeys]

/-- A document with the fields of a record: an object whose keys are texts and that has at most one
member for each field, or an array with one item for each field. -/
inductive IsRecord (names : List String) : Document → List (Option Document) → Prop where
  | object {ms : Members} {slots} : hasTextKeys ms = true →
      List.Forall₂ (fun name slot => valuesOf name ms = slot.toList) names slots →
      IsRecord names (.object ms) slots
  | array {ds : List Document} : ds.length = names.length → IsRecord names (.array ds) (ds.map some)

theorem mapM_sole?_eq_some_iff (ms : Members) :
    names.mapM (fun name => sole? (valuesOf name ms)) = some slots ↔
      List.Forall₂ (fun name slot => valuesOf name ms = slot.toList) names slots := by
  induction names generalizing slots with
  | nil => simp [eq_comm]
  | cons name names ih =>
      simp only [List.mapM_cons, Option.bind_eq_bind, Option.bind_eq_some_iff, Option.pure_def,
        Option.some.injEq, List.forall₂_cons_left_iff, sole?_eq_some_iff, ih]
      constructor
      · rintro ⟨slot, hslot, rest, hrest, rfl⟩
        exact ⟨slot, rest, hslot, hrest, rfl⟩
      · rintro ⟨slot, rest, hslot, hrest, rfl⟩
        exact ⟨slot, hslot, rest, hrest, rfl⟩

theorem fields?_eq_some_iff (h : names.Nodup) :
    d.fields? names = some slots ↔ IsRecord names d slots := by
  constructor
  · intro hfields
    cases d with
    | object ms =>
        rw [fields?_object h] at hfields
        split at hfields
        · next hkeys => exact .object hkeys ((mapM_sole?_eq_some_iff ms).mp hfields)
        · cases hfields
    | array ds =>
        rw [Document.fields?] at hfields
        split at hfields
        · next hlength =>
          obtain rfl := Option.some.inj hfields
          exact .array hlength
        · cases hfields
    | _ => cases hfields
  · intro hrecord
    cases hrecord with
    | object hkeys hslots =>
        rw [fields?_object h, if_pos hkeys, (mapM_sole?_eq_some_iff _).mpr hslots]
    | array hlength => rw [Document.fields?, if_pos hlength]

/-- A text, and what it says. -/
inductive IsQuoted : Document → String → Prop where
  | text {ps t} : Piece.text? ps = some t → IsQuoted (.text ps) t

theorem readText?_eq_some_iff {t : String} : d.readText? = some t ↔ IsQuoted d t := by
  constructor
  · intro h
    cases d with
    | text ps => exact .text h
    | _ => cases h
  · rintro ⟨h⟩
    exact h

/-- What a field holds that may be missing or null. -/
inductive Optionally {α : Type} (means : Document → α → Prop) :
    Option Document → Option α → Prop where
  | missing : Optionally means none none
  | null : Optionally means (some .null) none
  | value {d a} : means d a → Optionally means (some d) (some a)

theorem optional?_eq_some_iff {α : Type} {read : Document → Option α} {means : Document → α → Prop}
    (hread : ∀ d a, read d = some a ↔ means d a) (hnull : ∀ a, ¬ means .null a) {x : Option α} :
    optional? read slot = some x ↔ Optionally means slot x := by
  constructor
  · intro h
    unfold optional? at h
    split at h
    · obtain rfl := Option.some.inj h
      exact .missing
    · obtain rfl := Option.some.inj h
      exact .null
    · obtain ⟨a, ha, rfl⟩ := Option.map_eq_some_iff.mp h
      exact .value ((hread _ a).mp ha)
  · intro h
    cases h with
    | missing | null => rfl
    | @value d a hmeans =>
        have hread := (hread d a).mpr hmeans
        cases d with
        | null => exact (hnull a hmeans).elim
        | _ => simp [optional?, hread]

/-! ### Objects that are kept -/

theorem get?_insertMember (name key : String) (v : Value) (found : List (String × Value)) :
    Value.get? name (insertMember key v found) =
      if key = name then some v else Value.get? name found := by
  induction found with
  | nil => rfl
  | cons m found ih =>
      obtain ⟨k, w⟩ := m
      rw [insertMember]
      split
      · rfl
      · split
        · next heq =>
          subst heq
          by_cases hname : key = name <;> simp [Value.get?, hname]
        · next hne =>
          rw [Value.get?, ih, Value.get?]
          by_cases hk : k = name
          · subst hk
            simp [hne]
          · simp [hk]

theorem get?_memberValues_from {room : ℕ} {found members : List (String × Value)}
    (h : memberValues? room ms found = some members) (name : String) :
    Value.get? name members =
      (valuesOf name ms).getLast?.elim (Value.get? name found) (Document.value? room) := by
  induction ms generalizing found with
  | nil =>
      obtain rfl : found = members := Option.some.inj h
      rfl
  | cons m ms ih =>
      obtain ⟨k, d⟩ := m
      rw [memberValues?] at h
      split at h
      · next key v hkey hv =>
        rw [ih h, get?_insertMember]
        by_cases hname : key = name
        · subst hname
          rw [valuesOf_cons_of_eq hkey, if_pos rfl, List.getLast?_cons]
          cases (valuesOf key ms).getLast? with
          | none => exact hv.symm
          | some e => rfl
        · rw [valuesOf_cons_of_ne (by simp [hkey, hname]), if_neg hname]
      · cases h

/-- The last member with a key is the one that counts. -/
theorem get?_memberValues {room : ℕ} {members : List (String × Value)}
    (h : memberValues? room ms [] = some members) (name : String) :
    Value.get? name members = (valuesOf name ms).getLast?.bind (Document.value? room) := by
  rw [get?_memberValues_from h]
  cases (valuesOf name ms).getLast? <;> rfl

end EpisodeGuide.Json
