import EpisodeGuide.Proofs.Json.Members
import EpisodeGuide.Proofs.Provider.Number
import EpisodeGuide.Proofs.Provider.Replacement

/-! # What entries describe

Every entry of a page that is an object, or a short array, becomes one episode, and no other entry
does. An object is described by the last member under each of four keys, an array by its first four
items; what does not mean a number or a text counts as absent. -/

namespace EpisodeGuide.Provider

open Json

/-! ### Descriptions -/

/-- The natural number that a part of an entry means, as a number or as a text. -/
inductive MeansNumber : Document → ℕ → Prop where
  | number {numeral number n} : numeral.value? = some number → Denotes (.number number) n →
      MeansNumber (.number numeral) n
  | text {ps t n} : Piece.text? ps = some t → Denotes (.text t) n → MeansNumber (.text ps) n

/-- An entry with what its parts mean. A field is absent if its part is missing or means nothing. -/
structure Filled (season number name aired : Option Document) (e : Entry) : Prop where
  season : ∀ w, e.season = some w ↔ ∃ d ∈ season, MeansNumber d w.toNat
  number : ∀ w, e.number = some w ↔ ∃ d ∈ number, MeansNumber d w.toNat
  name : ∀ t, e.name = some t ↔ ∃ d ∈ name, IsQuoted d t
  aired : ∀ t, e.aired = some t ↔ ∃ d ∈ aired, IsQuoted d t

def lastValue (key : String) (ms : Members) : Option Document :=
  (valuesOf key ms).getLast?

/-- The entry that a document describes, field by field. -/
inductive Describes : Document → Entry → Prop where
  | object {ms e} : Filled (lastValue "seasonNumber" ms) (lastValue "number" ms)
      (lastValue "name" ms) (lastValue "aired" ms) e → Describes (.object ms) e
  | array {ds : List Document} {e} : ds.length ≤ 4 → Filled ds[0]? ds[1]? ds[2]? ds[3]? e →
      Describes (.array ds) e

/-- Whether a document describes an entry: an object does, and an array that is not too long. -/
def describesEntry : Document → Bool
  | .object _ => true
  | .array ds => decide (ds.length ≤ 4)
  | _ => false

theorem Filled.unique {season number name aired : Option Document} {e e' : Entry}
    (h : Filled season number name aired e) (h' : Filled season number name aired e') : e = e' := by
  obtain ⟨s, n, t, a⟩ := e
  obtain ⟨s', n', t', a'⟩ := e'
  have hs : s = s' := Option.ext fun w => (h.season w).trans (h'.season w).symm
  have hn : n = n' := Option.ext fun w => (h.number w).trans (h'.number w).symm
  have ht : t = t' := Option.ext fun w => (h.name w).trans (h'.name w).symm
  have ha : a = a' := Option.ext fun w => (h.aired w).trans (h'.aired w).symm
  rw [hs, hn, ht, ha]

/-! ### Entries that are read -/

section Reading

variable {room : ℕ} {d : Document} {v : Value} {vs : List Value} {ds : List Document}

/-- What a part of an entry means is what its value denotes, at any depth. -/
theorem meansNumber_iff (room : ℕ) (d : Document) (n : ℕ) :
    MeansNumber d n ↔ ∃ v, d.value? room = some v ∧ Denotes v n := by
  constructor
  · intro h
    cases h with
    | number hvalue hn => exact ⟨_, Document.value?_eq_number_iff.mpr ⟨_, rfl, hvalue⟩, hn⟩
    | text htext hn => exact ⟨_, Document.value?_eq_text_iff.mpr ⟨_, rfl, htext⟩, hn⟩
  · rintro ⟨v, hv, hn⟩
    cases hn with
    | integer hi =>
        obtain ⟨numeral, rfl, hvalue⟩ := Document.value?_eq_number_iff.mp hv
        exact .number hvalue (.integer hi)
    | real hx =>
        obtain ⟨numeral, rfl, hvalue⟩ := Document.value?_eq_number_iff.mp hv
        exact .number hvalue (.real hx)
    | text ht =>
        obtain ⟨ps, rfl, htext⟩ := Document.value?_eq_text_iff.mp hv
        exact .text htext (.text ht)

theorem number_eq_some_iff (room : ℕ) (part : Option Document) (w : UInt32) :
    (part.bind (Document.value? room)).bind lenientNumber = some w ↔
      ∃ d ∈ part, MeansNumber d w.toNat := by
  simp only [Option.bind_eq_some_iff, lenientNumber_eq_some_iff, meansNumber_iff room]
  constructor
  · rintro ⟨v, ⟨d, hd, hv⟩, hn⟩
    exact ⟨d, hd, v, hv, hn⟩
  · rintro ⟨d, hd, v, hv, hn⟩
    exact ⟨v, ⟨d, hd, hv⟩, hn⟩

theorem text_eq_some_iff (room : ℕ) (part : Option Document) (t : String) :
    (part.bind (Document.value? room)).bind lenientText = some t ↔ ∃ d ∈ part, IsQuoted d t := by
  constructor
  · intro h
    obtain ⟨v, hpart, ht⟩ := Option.bind_eq_some_iff.mp h
    obtain ⟨d, hd, hv⟩ := Option.bind_eq_some_iff.mp hpart
    cases v with
    | text =>
        obtain rfl := Option.some.inj ht
        obtain ⟨ps, rfl, htext⟩ := Document.value?_eq_text_iff.mp hv
        exact ⟨_, hd, .text htext⟩
    | _ => cases ht
  · rintro ⟨d, hd, ⟨htext⟩⟩
    rw [Option.mem_def.mp hd, Option.bind_some,
      Document.value?_eq_text_iff.mpr ⟨_, rfl, htext⟩]
    rfl

/-- An entry whose fields are read from the values of its parts. -/
theorem filled_of_values (room : ℕ) (season number name aired : Option Document) :
    Filled season number name aired
      ⟨(season.bind (Document.value? room)).bind lenientNumber,
        (number.bind (Document.value? room)).bind lenientNumber,
        (name.bind (Document.value? room)).bind lenientText,
        (aired.bind (Document.value? room)).bind lenientText⟩ where
  season := number_eq_some_iff room season
  number := number_eq_some_iff room number
  name := text_eq_some_iff room name
  aired := text_eq_some_iff room aired

theorem getElem?_of_kept (h : List.Forall₂ (fun d v => d.value? room = some v) ds vs) (i : ℕ) :
    vs[i]? = ds[i]?.bind (Document.value? room) := by
  induction h generalizing i with
  | nil => rfl
  | cons hv _ ih =>
      cases i with
      | zero => exact hv.symm
      | succ i => simpa using ih i

/-- A value is an entry exactly if its document describes one, and then it is that entry. -/
theorem describes_of_value? (h : d.value? room = some v) :
    if describesEntry d then ∃ e, Entry.ofValue? v = some e ∧ Describes d e
    else Entry.ofValue? v = none := by
  cases d with
  | null | bool =>
      obtain rfl := Option.some.inj h
      rfl
  | number n =>
      obtain ⟨number, -, rfl⟩ := Option.map_eq_some_iff.mp h
      rfl
  | text ps =>
      obtain ⟨t, -, rfl⟩ := Option.map_eq_some_iff.mp h
      rfl
  | array ds =>
      rw [Document.value?] at h
      split at h
      · cases h
      · obtain ⟨vs, hvs, rfl⟩ := Option.map_eq_some_iff.mp h
        have hkept := forall₂_itemValues hvs
        by_cases hlength : ds.length ≤ 4
        · have hshort : vs.length ≤ 4 := hkept.length_eq ▸ hlength
          have hfilled := filled_of_values (room - 1) ds[0]? ds[1]? ds[2]? ds[3]?
          simp only [← getElem?_of_kept hkept] at hfilled
          rw [describesEntry, if_pos (decide_eq_true hlength)]
          exact ⟨_, if_pos hshort, .array hlength hfilled⟩
        · have hlong : ¬ vs.length ≤ 4 := hkept.length_eq ▸ hlength
          rw [describesEntry, if_neg (by simpa using hlength)]
          exact if_neg hlong
  | object ms =>
      rw [Document.value?] at h
      split at h
      · cases h
      · obtain ⟨members, hmembers, rfl⟩ := Option.map_eq_some_iff.mp h
        have hfilled := filled_of_values (room - 1) (lastValue "seasonNumber" ms)
          (lastValue "number" ms) (lastValue "name" ms) (lastValue "aired" ms)
        simp only [lastValue, ← get?_memberValues hmembers] at hfilled
        exact ⟨_, rfl, .object hfilled⟩

/-- The values of a list of documents hold one entry for each document that describes one, in their
order. -/
theorem forall₂_describes (h : List.Forall₂ (fun d v => d.value? room = some v) ds vs) :
    List.Forall₂ Describes (ds.filter describesEntry) (vs.filterMap Entry.ofValue?) := by
  induction h with
  | nil => exact .nil
  | @cons d v ds vs hv _ ih =>
      have hdescribes := describes_of_value? hv
      split at hdescribes
      · next hentry =>
        obtain ⟨e, he, hd⟩ := hdescribes
        rw [List.filter_cons_of_pos hentry, List.filterMap_cons_some he]
        exact .cons hd ih
      · next hentry =>
        rw [List.filter_cons_of_neg hentry, List.filterMap_cons_none hdescribes]
        exact ih

end Reading

/-! ### Pages -/

namespace Page

/-- The documents in the list of episodes of a page's data, if there is such a list. -/
def listedDocuments (data : Document) : List Document :=
  match data.fields? ["episodes"] with
  | some [some (.array ds)] => ds
  | _ => []

/-- The documents of a page's entries; there are none when the list, or the record that holds it,
is missing or null. -/
def entryDocuments (d : Document) : List Document :=
  match d.fields? ["data", "links"] with
  | some [some data, _] => listedDocuments data
  | _ => []

theorem itemValues?_listedDocuments {data : Document} {entries : Option (List Value)}
    (h : readEntries? data = some entries) :
    itemValues? entryRoom (listedDocuments data) = some (entries.getD []) := by
  unfold readEntries? at h
  split at h
  · next episodes hfields =>
    rw [listedDocuments, hfields]
    cases episodes with
    | none =>
        obtain rfl := Option.some.inj h
        rfl
    | some list =>
        cases list with
        | null =>
            obtain rfl := Option.some.inj h
            rfl
        | array ds =>
            obtain ⟨vs, hvs, rfl⟩ := Option.map_eq_some_iff.mp h
            exact hvs
        | _ => cases h
  · cases h

theorem itemValues?_entryDocuments {d : Document} {page : Page}
    (h : ofDocument? d = some page) :
    itemValues? entryRoom (entryDocuments d) = some page.entries := by
  unfold ofDocument? at h
  split at h
  · next data links hfields =>
    simp only [Option.bind_eq_bind, Option.bind_eq_some_iff, Option.pure_def,
      Option.some.injEq] at h
    obtain ⟨entries, hentries, next, -, rfl⟩ := h
    rw [entryDocuments, hfields]
    unfold optional? at hentries
    split at hentries
    · obtain rfl := Option.some.inj hentries
      rfl
    · obtain rfl := Option.some.inj hentries
      rfl
    · obtain ⟨listed, hlisted, rfl⟩ := Option.map_eq_some_iff.mp hentries
      exact itemValues?_listedDocuments hlisted
  · cases h

/-- What the entries of a page come to. Those that describe an entry are used, one for one and in
their order, whatever else they hold, and an object is described by its last members under four
keys alone. -/
structure DescriptionSpec (body : String) (page : Page) : Prop where
  spelled : ∃ d, IsText body.toList d
  described : ∀ d, IsText body.toList d →
    List.Forall₂ Describes ((entryDocuments d).filter describesEntry) page.usableEntries
  alone : ∀ ms ms' e e', Describes (.object ms) e → Describes (.object ms') e' →
    (∀ key ∈ Entry.fieldNames, lastValue key ms = lastValue key ms') → e = e'

/-- Every page that is read has the episodes that its entries describe. -/
theorem ofText?_descriptionSpec (body : String) (page : Page) (h : ofText? body = some page) :
    DescriptionSpec body page where
  spelled := by
    obtain ⟨d, hd, -⟩ := exists_of_ofText? h
    exact ⟨d, hd⟩
  described := by
    intro d hd
    have hpage : ofDocument? d = some page := by
      rwa [← ofText?_eq hd, String.ofList_toList]
    exact forall₂_describes (forall₂_itemValues (itemValues?_entryDocuments hpage))
  alone := by
    rintro ms ms' e e' ⟨h⟩ ⟨h'⟩ hlast
    rw [hlast "seasonNumber" (by decide), hlast "number" (by decide), hlast "name" (by decide),
      hlast "aired" (by decide)] at h
    exact h.unique h'

/-- A page with a number that comes twice, an entry that is no object, and a short array. -/
theorem ofText?_descriptionSpec_repeated :
    let body := "\x7b\"data\":\x7b\"episodes\":" ++
      "[\x7b\"number\":7,\"number\":8\x7d,null,[1]]\x7d\x7d"
    let page : Page := ⟨[.object [("number", .number (.integer 8))], .null,
      .array [.number (.integer 1)]], none⟩
    ofText? body = some page ∧ DescriptionSpec body page :=
  ⟨by cbv, ofText?_descriptionSpec _ _ (by cbv)⟩

/-- An empty array is no object, and it becomes an episode with nothing in it. -/
theorem ofText?_emptyArray :
    let body := "\x7b\"data\":\x7b\"episodes\":[[]]\x7d\x7d"
    let word (s : String) := s.toList.map Piece.char
    let d : Document := .object [(word "data", .object [(word "episodes", .array [.array []])])]
    IsText body.toList d ∧ entryDocuments d = [.array []] ∧
      (ofText? body).map (episodes "42") = some [⟨"42", 0, 0, "", ""⟩] :=
  ⟨Document.ofChars?_iff.mp (by cbv), by cbv, by cbv⟩

end Page

end EpisodeGuide.Provider
