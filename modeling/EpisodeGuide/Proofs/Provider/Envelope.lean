import EpisodeGuide.Auth
import EpisodeGuide.Proofs.Json.Grammar
import EpisodeGuide.Proofs.Json.Members
import EpisodeGuide.Provider.Page

/-! # Envelopes

The envelopes of logins and pages are read by their fields. What else stands in them makes no
difference, whatever it holds, as long as its key is a text; nor does the order of the members, nor
whether a field that holds nothing is missing or null. -/

namespace EpisodeGuide.Json

/-! ### Members that make no difference -/

/-- Changes to the members of a record whose fields have these names: another order, one member
more or less that has another key, and a field that is null instead of missing, or missing instead
of null. -/
inductive Slack (names : List String) : Members → Members → Prop where
  | order {ms ns : Members} : ms.Perm ns → Slack names ms ns
  | add {ms ns : Members} {k key} (d) : Piece.text? k = some key → key ∉ names →
      Slack names (ms ++ ns) (ms ++ (k, d) :: ns)
  | remove {ms ns : Members} {k key} (d) : Piece.text? k = some key → key ∉ names →
      Slack names (ms ++ (k, d) :: ns) (ms ++ ns)
  | addNull {ms ns : Members} {k key} : Piece.text? k = some key → key ∈ names →
      valuesOf key (ms ++ ns) = [] → Slack names (ms ++ ns) (ms ++ (k, .null) :: ns)
  | removeNull {ms ns : Members} {k key} : Piece.text? k = some key → key ∈ names →
      valuesOf key (ms ++ ns) = [] → Slack names (ms ++ (k, .null) :: ns) (ms ++ ns)

/-- The names of the fields of a record, and those within the fields that are records themselves. -/
structure Envelope where
  names : List String
  inner : List (String × List String)

/-- A change to the members of an envelope, or to those of a record within it. -/
inductive Edit (e : Envelope) : Document → Document → Prop where
  | outer {ms ns} : Slack e.names ms ns → Edit e (.object ms) (.object ns)
  | inner {ms ns : Members} {k field names xs ys} : (field, names) ∈ e.inner →
      Piece.text? k = some field → Slack names xs ys →
      Edit e (.object (ms ++ (k, .object xs) :: ns)) (.object (ms ++ (k, .object ys) :: ns))

/-- An envelope with a key that is no text, or with a record that has one. -/
inductive Broken (e : Envelope) : Document → Prop where
  | outer {ms} : hasTextKeys ms = false → Broken e (.object ms)
  | inner {ms ns : Members} {k field names xs} : (field, names) ∈ e.inner →
      Piece.text? k = some field → hasTextKeys xs = false →
      Broken e (.object (ms ++ (k, .object xs) :: ns))

/-- Texts of two documents, the second of which comes from the first one by changes to an
envelope. -/
def Edited (e : Envelope) (body body' : String) : Prop :=
  ∃ d d', IsText body.toList d ∧ IsText body'.toList d' ∧ Relation.ReflTransGen (Edit e) d d'

/-- Members from which the fields of a record are read alike. -/
structure SameFields (names : List String) (ms ns : Members) : Prop where
  keys : hasTextKeys ms = hasTextKeys ns
  field : ∀ name ∈ names, ∀ {α : Type} (read : Document → Option α),
    readField read (valuesOf name ms) = readField read (valuesOf name ns)

variable {names : List String} {ms ns xs ys : Members} {k : List Piece} {key name : String}
  {d : Document}

theorem SameFields.symm (h : SameFields names ms ns) : SameFields names ns ms :=
  ⟨h.keys.symm, fun name hname _ read => (h.field name hname read).symm⟩

theorem SameFields.of_perm (h : ms.Perm ns) : SameFields names ms ns where
  keys := hasTextKeys_perm h
  field name _ _ read := by rw [readField, readField, sole?_perm (valuesOf_perm h name)]

/-- One more member is no field, or it is null and its field was missing. -/
theorem SameFields.of_insert (hk : Piece.text? k = some key)
    (h : key ∈ names → d = .null ∧ valuesOf key (ms ++ ns) = []) :
    SameFields names (ms ++ ns) (ms ++ (k, d) :: ns) where
  keys := by
    rw [hasTextKeys_append, hasTextKeys_append, hasTextKeys_cons, hk]
    rfl
  field name hname _ read := by
    by_cases heq : key = name
    · subst heq
      obtain ⟨rfl, hmissing⟩ := h hname
      rw [hmissing]
      rw [valuesOf_append, List.append_eq_nil_iff] at hmissing
      rw [valuesOf_append, valuesOf_cons_of_eq hk, hmissing.1, hmissing.2]
      rfl
    · rw [valuesOf_append, valuesOf_append, valuesOf_cons_of_ne (by simp [hk, heq])]

theorem Slack.sameFields (h : Slack names ms ns) : SameFields names ms ns := by
  cases h with
  | order h => exact .of_perm h
  | add d hk hkey => exact .of_insert hk fun hmem => (hkey hmem).elim
  | remove d hk hkey => exact (SameFields.of_insert hk fun hmem => (hkey hmem).elim).symm
  | addNull hk _ hmissing => exact .of_insert hk fun _ => ⟨rfl, hmissing⟩
  | removeNull hk _ hmissing => exact (SameFields.of_insert hk fun _ => ⟨rfl, hmissing⟩).symm

/-! ### Records within records -/

theorem hasTextKeys_inner (ms ns : Members) (k : List Piece) (d d' : Document) :
    hasTextKeys (ms ++ (k, d) :: ns) = hasTextKeys (ms ++ (k, d') :: ns) := by
  simp only [hasTextKeys_append, hasTextKeys_cons]

theorem valuesOf_inner (ms ns : Members) (d d' : Document) (hk : Piece.text? k = some key)
    (h : name ≠ key) :
    valuesOf name (ms ++ (k, d) :: ns) = valuesOf name (ms ++ (k, d') :: ns) := by
  have hne : Piece.text? k ≠ some name := by simp [hk, h.symm]
  rw [valuesOf_append, valuesOf_append, valuesOf_cons_of_ne hne, valuesOf_cons_of_ne hne]

/-- A field that is a record is read as that record, unless it comes again. -/
theorem readField_object {α : Type} (read : Document → Option α) (ms ns xs : Members)
    (hk : Piece.text? k = some key) :
    readField read (valuesOf key (ms ++ (k, .object xs) :: ns)) =
      if (valuesOf key (ms ++ ns)).isEmpty then (read (.object xs)).map some else none := by
  rw [valuesOf_append, valuesOf_append, valuesOf_cons_of_eq hk]
  rcases valuesOf key ms with - | ⟨x, - | ⟨y, rest⟩⟩
  · cases valuesOf key ns <;> rfl
  · rfl
  · rfl

end EpisodeGuide.Json

namespace EpisodeGuide.Provider

open Json

variable {ms ns : Members} {d d' : Document}

/-! ### Logins -/

namespace LoginReply

def envelope : Envelope :=
  ⟨["status", "data", "message"], [("data", ["token"])]⟩

theorem mem_inner {field : String} {names : List String} (h : (field, names) ∈ envelope.inner) :
    field = "data" ∧ names = ["token"] := by
  simpa [envelope] using h

theorem readToken?_object (ms : Members) : readToken? (.object ms) =
    if hasTextKeys ms then readField Document.readText? (valuesOf "token" ms) else none :=
  oneField_object Document.readText? "token" ms

theorem ofDocument?_object (ms : Members) : ofDocument? (.object ms) =
    if hasTextKeys ms then do
      let status ← readField Document.readText? (valuesOf "status" ms)
      let token ← readField readToken? (valuesOf "data" ms)
      let message ← readField Document.readText? (valuesOf "message" ms)
      return ⟨status, token.join, message⟩
    else none := by
  rw [ofDocument?, fields?_object (by decide)]
  by_cases hkeys : hasTextKeys ms = true
  · cases hstatus : sole? (valuesOf "status" ms) <;> cases hdata : sole? (valuesOf "data" ms) <;>
      cases hmessage : sole? (valuesOf "message" ms) <;>
      simp [hkeys, hstatus, hdata, hmessage, readField]
  · simp [hkeys]

theorem ofDocument?_edit (h : Edit envelope d d') : ofDocument? d' = ofDocument? d := by
  cases h with
  | outer h =>
      obtain ⟨hkeys, hfield⟩ := h.sameFields
      rw [ofDocument?_object, ofDocument?_object, hkeys, hfield "status" (by decide),
        hfield "data" (by decide), hfield "message" (by decide)]
  | @inner ms ns k field names xs ys hinner hk h =>
      obtain ⟨rfl, rfl⟩ := mem_inner hinner
      obtain ⟨hkeys, hfield⟩ := h.sameFields
      have htoken : readToken? (.object xs) = readToken? (.object ys) := by
        rw [readToken?_object, readToken?_object, hkeys, hfield "token" (by decide)]
      have hdata := readField_object readToken? ms ns xs hk
      rw [htoken, ← readField_object readToken? ms ns ys hk] at hdata
      have hother (name : String) (hne : name ≠ "data") :=
        valuesOf_inner ms ns (.object xs) (.object ys) hk hne
      rw [ofDocument?_object, ofDocument?_object,
        hasTextKeys_inner ms ns k (.object xs) (.object ys), hdata,
        hother "status" (by decide), hother "message" (by decide)]

theorem ofDocument?_broken (h : Broken envelope d) : ofDocument? d = none := by
  cases h with
  | outer hkeys => rw [ofDocument?_object, hkeys, if_neg Bool.false_ne_true]
  | @inner ms ns k field names xs hinner hk hkeys =>
      obtain ⟨rfl, rfl⟩ := mem_inner hinner
      have htoken : readToken? (.object xs) = none := by
        rw [readToken?_object, hkeys, if_neg Bool.false_ne_true]
      rw [ofDocument?_object, readField_object readToken? ms ns xs hk, htoken]
      simp

end LoginReply

/-! ### Pages -/

namespace Page

def envelope : Envelope :=
  ⟨["data", "links"], [("data", ["episodes"]), ("links", ["next"])]⟩

theorem mem_inner {field : String} {names : List String} (h : (field, names) ∈ envelope.inner) :
    (field = "data" ∧ names = ["episodes"]) ∨ (field = "links" ∧ names = ["next"]) := by
  simpa [envelope] using h

theorem readEntries?_object (ms : Members) : readEntries? (.object ms) =
    if hasTextKeys ms then readField readItems? (valuesOf "episodes" ms) else none :=
  oneField_object readItems? "episodes" ms

theorem readNext?_object (ms : Members) : readNext? (.object ms) =
    if hasTextKeys ms then
      readField (Document.value? (maxDepth - linkLevel)) (valuesOf "next" ms)
    else none :=
  oneField_object (Document.value? (maxDepth - linkLevel)) "next" ms

theorem ofDocument?_object (ms : Members) : ofDocument? (.object ms) =
    if hasTextKeys ms then do
      let entries ← readField readEntries? (valuesOf "data" ms)
      let next ← readField readNext? (valuesOf "links" ms)
      return ⟨entries.join.getD [], next.join⟩
    else none := by
  rw [ofDocument?, fields?_object (by decide)]
  by_cases hkeys : hasTextKeys ms = true
  · cases hdata : sole? (valuesOf "data" ms) <;> cases hlinks : sole? (valuesOf "links" ms) <;>
      simp [hkeys, hdata, hlinks, readField]
  · simp [hkeys]

theorem ofDocument?_edit (h : Edit envelope d d') : ofDocument? d' = ofDocument? d := by
  cases h with
  | outer h =>
      obtain ⟨hkeys, hfield⟩ := h.sameFields
      rw [ofDocument?_object, ofDocument?_object, hkeys, hfield "data" (by decide),
        hfield "links" (by decide)]
  | @inner ms ns k field names xs ys hinner hk h =>
      obtain ⟨hkeys, hfield⟩ := h.sameFields
      have hother (name : String) (hne : name ≠ field) :=
        valuesOf_inner ms ns (.object xs) (.object ys) hk hne
      rw [ofDocument?_object, ofDocument?_object,
        hasTextKeys_inner ms ns k (.object xs) (.object ys)]
      rcases mem_inner hinner with ⟨rfl, rfl⟩ | ⟨rfl, rfl⟩
      · have hentries : readEntries? (.object xs) = readEntries? (.object ys) := by
          rw [readEntries?_object, readEntries?_object, hkeys, hfield "episodes" (by decide)]
        rw [readField_object _ ms ns xs hk, readField_object _ ms ns ys hk, hentries,
          hother "links" (by decide)]
      · have hnext : readNext? (.object xs) = readNext? (.object ys) := by
          rw [readNext?_object, readNext?_object, hkeys, hfield "next" (by decide)]
        rw [readField_object _ ms ns xs hk, readField_object _ ms ns ys hk, hnext,
          hother "data" (by decide)]

theorem ofDocument?_broken (h : Broken envelope d) : ofDocument? d = none := by
  cases h with
  | outer hkeys => rw [ofDocument?_object, hkeys, if_neg Bool.false_ne_true]
  | @inner ms ns k field names xs hinner hk hkeys =>
      rw [ofDocument?_object]
      rcases mem_inner hinner with ⟨rfl, rfl⟩ | ⟨rfl, rfl⟩
      · have hentries : readEntries? (.object xs) = none := by
          rw [readEntries?_object, hkeys, if_neg Bool.false_ne_true]
        rw [readField_object readEntries? ms ns xs hk, hentries]
        simp
      · have hnext : readNext? (.object xs) = none := by
          rw [readNext?_object, hkeys, if_neg Bool.false_ne_true]
        rw [readField_object readNext? ms ns xs hk, hnext]
        simp

end Page

/-! ### Texts of envelopes -/

/-- A reader that does not see the changes of documents reads their texts alike. -/
theorem bind_eq_of_edited {α : Type} {e : Envelope} {read : Document → Option α}
    {body body' : String} (hread : ∀ d d', Edit e d d' → read d' = read d)
    (h : Edited e body body') :
    (Document.ofText? body').bind read = (Document.ofText? body).bind read := by
  obtain ⟨d, d', hd, hd', hedits⟩ := h
  rw [Document.ofText?, Document.ofText?, Document.ofChars?_iff.mpr hd,
    Document.ofChars?_iff.mpr hd']
  clear hd hd'
  induction hedits with
  | refl => rfl
  | tail _ hedit ih => exact (hread _ _ hedit).trans ih

theorem bind_eq_none_of_broken {α : Type} {e : Envelope} {read : Document → Option α}
    {body : String} {d : Document} (hread : ∀ d, Broken e d → read d = none)
    (hd : IsText body.toList d) (h : Broken e d) : (Document.ofText? body).bind read = none := by
  rw [Document.ofText?, Document.ofChars?_iff.mpr hd]
  exact hread d h

/-- What changes to the envelope of a reply do: a login is accepted or refused as before and a page
is read as before, unless a key that is no text comes in, with which nothing is read at all. -/
structure ToleranceSpec (body body' : String) : Prop where
  login : Edited LoginReply.envelope body body' →
    LoginReply.ofText? body' = LoginReply.ofText? body ∧
      ∀ now status, Authenticator.accept now ⟨status, body'⟩ =
        Authenticator.accept now ⟨status, body⟩
  page : Edited Page.envelope body body' →
    Page.ofText? body' = Page.ofText? body
  brokenLogin : ∀ d, IsText body'.toList d → Broken LoginReply.envelope d →
    LoginReply.ofText? body' = none
  brokenPage : ∀ d, IsText body'.toList d → Broken Page.envelope d → Page.ofText? body' = none

/-- Every text of a login or of a page tolerates changes to its envelope. -/
theorem edited_toleranceSpec (body body' : String) : ToleranceSpec body body' where
  login h := by
    have hread : LoginReply.ofText? body' = LoginReply.ofText? body :=
      bind_eq_of_edited (fun _ _ => LoginReply.ofDocument?_edit) h
    refine ⟨hread, fun now status => ?_⟩
    rw [Authenticator.accept, Authenticator.accept, hread]
  page := bind_eq_of_edited fun _ _ => Page.ofDocument?_edit
  brokenLogin _ := bind_eq_none_of_broken fun _ => LoginReply.ofDocument?_broken
  brokenPage _ := bind_eq_none_of_broken fun _ => Page.ofDocument?_broken

/-- A member that no field has the name of, with an unpaired surrogate as its key, takes the whole
page away. -/
theorem Page.ofText?_unpairedKey :
    let body (front : String) :=
      "\x7b" ++ front ++ "\"data\":\x7b\"episodes\":[\x7b\"number\":7\x7d]\x7d\x7d"
    let odd := "\"\\ud800\":null,"
    let word (s : String) := s.toList.map Piece.char
    let ms : Members := [(word "data", .object [(word "episodes",
      .array [.object [(word "number", .number ⟨false, [7], none, none⟩)]])])]
    IsText (body "").toList (.object ms) ∧
      IsText (body odd).toList (.object (([.code 0xD800], .null) :: ms)) ∧
      (∀ name ∈ Page.envelope.names, Piece.text? [.code 0xD800] ≠ some name) ∧
      (Page.ofText? (body "")).map (Page.episodes "42") = some [⟨"42", 0, 7, "", ""⟩] ∧
      Page.ofText? (body odd) = none :=
  ⟨Document.ofChars?_iff.mp (by cbv), Document.ofChars?_iff.mp (by cbv), by decide, by cbv, by cbv⟩

end EpisodeGuide.Provider
