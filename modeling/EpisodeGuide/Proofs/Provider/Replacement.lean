import EpisodeGuide.Proofs.Json.Grammar
import EpisodeGuide.Proofs.Json.Kept
import EpisodeGuide.Provider.Page

/-! # Pages with one entry replaced

An entry of a page can be replaced by any value that can be kept, and all other entries stay as
they are. A value that is well formed but cannot be kept makes the whole page unreadable. -/

namespace EpisodeGuide.Json

/-! ### The first field of a record -/

/-- A record with a value in its first field: a member with the name of the field, or the first item
of an array. -/
inductive FirstField (name : String) : (Document → Document) → Prop where
  | member {ms k ns} : Piece.text? k = some name →
      FirstField name fun d => .object (ms ++ (k, d) :: ns)
  | item {ds} : FirstField name fun d => .array (d :: ds)

/-- A reading of fields that depends on the first one as little as can be: it fails for all values
of the field, or it puts the value into the first slot and is otherwise the same for all. -/
def Uniform (read : Document → Option (List (Option Document))) : Prop :=
  (∀ d, read d = none) ∨ ∃ rest, ∀ d, read d = some (some d :: rest)

section Fields

variable {name : String} {names : List String} {F C : Document → Document} {d : Document}
  {ms ns : List (List Piece × Document)} {slots rest : List (Option Document)}

/-- Nothing takes a value out of the slot that it fills. -/
theorem fillSlots_filled (ns : List (List Piece × Document)) :
    Uniform fun d => fillSlots (name :: names) ns (some d :: slots) := by
  induction ns generalizing slots with
  | nil => exact .inr ⟨slots, fun _ => rfl⟩
  | cons m ns ih =>
      obtain ⟨k, x⟩ := m
      simp only [fillSlots]
      cases Piece.text? k with
      | none => exact .inl fun _ => rfl
      | some key =>
          by_cases hname : name = key
          · exact .inl fun d => by simp [fillSlot, hname]
          · cases hfill : fillSlot key x names slots with
            | none => exact .inl fun d => by simp [fillSlot, hname, hfill]
            | some slots => simpa [fillSlot, hname, hfill] using ih

theorem fillSlots_member {k : List Piece} (hk : Piece.text? k = some name)
    (ms ns : List (List Piece × Document)) (slot : Option Document) :
    Uniform fun d => fillSlots (name :: names) (ms ++ (k, d) :: ns) (slot :: slots) := by
  induction ms generalizing slot slots with
  | nil =>
      simp only [List.nil_append, fillSlots, hk]
      cases slot with
      | some x => exact .inl fun _ => by simp [fillSlot]
      | none => simpa [fillSlot] using fillSlots_filled ns
  | cons m ms ih =>
      obtain ⟨k', x⟩ := m
      simp only [List.cons_append, fillSlots]
      cases Piece.text? k' with
      | none => exact .inl fun _ => rfl
      | some key =>
          by_cases hname : name = key
          · cases slot with
            | some y => exact .inl fun _ => by simp [fillSlot, hname]
            | none => simpa [fillSlot, hname] using ih (some x)
          · cases hfill : fillSlot key x names slots with
            | none => exact .inl fun _ => by simp [fillSlot, hname, hfill]
            | some slots => simpa [fillSlot, hname, hfill] using ih slot

theorem FirstField.fields? (h : FirstField name F) :
    Uniform fun d => (F d).fields? (name :: names) := by
  cases h with
  | member hk => exact fillSlots_member hk _ _ none
  | @item ds =>
      by_cases hlength : ds.length = names.length
      · exact .inr ⟨ds.map some, fun d => by simp [Document.fields?, hlength]⟩
      · exact .inl fun d => by simp [Document.fields?, hlength]

/-- A slot that is filled in the end was filled by a member. -/
theorem exists_member (h : fillSlots (name :: names) ms (none :: slots) = some (some d :: rest)) :
    ∃ before k after, ms = before ++ (k, d) :: after ∧ Piece.text? k = some name := by
  induction ms generalizing slots with
  | nil => simp [fillSlots] at h
  | cons m ms ih =>
      obtain ⟨k, x⟩ := m
      simp only [fillSlots] at h
      cases hk : Piece.text? k with
      | none => simp [hk] at h
      | some key =>
          simp only [hk] at h
          by_cases hname : name = key
          · subst hname
            have hfilled : Uniform fun d => fillSlots (name :: names) ms (some d :: slots) :=
              fillSlots_filled ms
            rcases hfilled with hnone | ⟨rest', hsome⟩
            · simp [fillSlot, hnone] at h
            · obtain ⟨rfl, -⟩ : x = d ∧ rest' = rest := by simpa [fillSlot, hsome] using h
              exact ⟨[], k, ms, rfl, hk⟩
          · cases hfill : fillSlot key x names slots with
            | none => simp [fillSlot, hname, hfill] at h
            | some slots' =>
                have hms : fillSlots (name :: names) ms (none :: slots') =
                    some (some d :: rest) := by
                  simpa [fillSlot, hname, hfill] using h
                obtain ⟨before, k', after, rfl, hk'⟩ := ih hms
                exact ⟨(k, x) :: before, k', after, rfl, hk'⟩

/-- Where a record is, there is the value of its first field. -/
theorem Holds.firstField {ts : List Lexeme} {record : Document} (h : Holds ts C record)
    (hfields : record.fields? (name :: names) = some (some d :: rest)) :
    ∃ F, FirstField name F ∧ Holds ts (fun d => C (F d)) d := by
  cases record with
  | object ms =>
      obtain ⟨before, k, after, rfl, hk⟩ := exists_member hfields
      exact ⟨_, .member hk, h.member⟩
  | array ds =>
      cases ds with
      | nil => simp [Document.fields?] at hfields
      | cons x ds =>
          obtain rfl : x = d := by
            simp only [Document.fields?] at hfields
            split at hfields
            · exact Option.some.inj (List.cons.inj (Option.some.inj hfields)).1
            · cases hfields
          have hfirst : Holds ts (fun d => C (.array ([] ++ d :: ds))) x := h.item
          exact ⟨_, .item, hfirst⟩
  | _ => cases hfields

end Fields

end EpisodeGuide.Json

namespace EpisodeGuide.Provider

open Json

/-- A page with a value among its entries: so many entries stand before it. -/
inductive EntryContext : ℕ → (Document → Document) → Prop where
  | mk {F G before after} : FirstField "data" F → FirstField "episodes" G →
      EntryContext before.length fun d => F (G (.array (before ++ d :: after)))

/-- Entries cannot be nested deeper than this. -/
abbrev entryRoom : ℕ :=
  maxDepth - Page.entryLevel

namespace Page

variable {F G C : Document → Document} {before after : List Document} {d : Document}
  {entries : List Value} {page : Page} {i : ℕ}

theorem readItems?_eq (ds : List Document) :
    readItems? (.array ds) = ds.mapM (Document.value? entryRoom) :=
  itemValues?_eq_mapM ds

theorem readItems?_append (d : Document) : readItems? (.array (before ++ d :: after)) =
    (readItems? (.array before)).bind fun front => (readItems? (.array after)).bind fun rear =>
      (d.value? entryRoom).map fun v => front ++ v :: rear := by
  simp only [readItems?_eq, List.mapM_append, List.mapM_cons, Option.bind_eq_bind]
  cases before.mapM (Document.value? entryRoom) with
  | none => rfl
  | some front =>
      cases d.value? entryRoom <;> cases after.mapM (Document.value? entryRoom) <;> rfl

theorem readEntries?_eq (h : FirstField "episodes" G) :
    (∀ ds, readEntries? (G (.array ds)) = none) ∨
      ∀ ds, readEntries? (G (.array ds)) = (readItems? (.array ds)).map some := by
  have hfields : Uniform fun d => (G d).fields? ["episodes"] := h.fields?
  rcases hfields with hnone | ⟨rest, hsome⟩
  · exact .inl fun ds => by simp only [readEntries?, hnone]
  · cases rest with
    | cons slot rest => exact .inl fun ds => by simp only [readEntries?, hsome]
    | nil => exact .inr fun ds => by simp only [readEntries?, hsome]; rfl

theorem ofDocument?_eq (hF : FirstField "data" F) (hG : FirstField "episodes" G) :
    (∀ ds, ofDocument? (F (G (.array ds))) = none) ∨
      ∃ next, ∀ ds, ofDocument? (F (G (.array ds))) =
        (readItems? (.array ds)).map fun entries => ⟨entries, next⟩ := by
  have hfields : Uniform fun d => (F d).fields? ["data", "links"] := hF.fields?
  have hdata (ds : List Document) : optional? readEntries? (some (G (.array ds))) =
      (readEntries? (G (.array ds))).map some := by cases hG <;> rfl
  rcases hfields with hnone | ⟨rest, hsome⟩
  · exact .inl fun ds => by simp only [ofDocument?, hnone]
  · rcases rest with - | ⟨links, - | ⟨slot, rest⟩⟩
    · exact .inl fun ds => by simp only [ofDocument?, hsome]
    · rcases readEntries?_eq hG with hentries | hentries
      · exact .inl fun ds => by simp [ofDocument?, hsome, hdata, hentries]
      · cases hlinks : optional? readNext? links with
        | none => exact .inl fun ds => by simp [ofDocument?, hsome, hdata, hentries, hlinks]
        | some next =>
            refine .inr ⟨next.join, fun ds => ?_⟩
            simp only [ofDocument?, hsome, hdata, hentries, hlinks]
            cases readItems? (.array ds) <;> rfl
    · exact .inl fun ds => by simp only [ofDocument?, hsome]

theorem exists_of_optional? {α : Type} {read : Document → Option α} {field : Option Document}
    {a : α} (h : optional? read field = some (some a)) : ∃ d, field = some d ∧ read d = some a := by
  unfold optional? at h
  split at h
  · cases h
  · cases h
  · next d _ =>
    obtain ⟨b, hread, hb⟩ := Option.map_eq_some_iff.mp h
    exact ⟨d, rfl, Option.some.inj hb ▸ hread⟩

theorem exists_of_readEntries? (h : readEntries? d = some (some entries)) : ∃ ds,
    d.fields? ["episodes"] = some [some (.array ds)] ∧ readItems? (.array ds) = some entries := by
  unfold readEntries? at h
  split at h
  · next episodes hfields =>
    obtain ⟨list, rfl, hitems⟩ := exists_of_optional? h
    cases list with
    | array ds => exact ⟨ds, hfields, hitems⟩
    | _ => cases hitems
  · cases h

theorem exists_of_ofDocument? (h : ofDocument? d = some page) (hne : page.entries ≠ []) :
    ∃ data rest, d.fields? ["data", "links"] = some (some data :: rest) ∧
      readEntries? data = some (some page.entries) := by
  unfold ofDocument? at h
  split at h
  · next data links hfields =>
    simp only [Option.bind_eq_bind, Option.bind_eq_some_iff, Option.pure_def,
      Option.some.injEq] at h
    obtain ⟨entries, hentries, next, -, rfl⟩ := h
    rcases entries with - | - | entries
    · exact (hne rfl).elim
    · exact (hne rfl).elim
    · obtain ⟨data, rfl, hread⟩ := exists_of_optional? hentries
      exact ⟨data, [links], hfields, hread⟩
  · cases h

/-- Where a page is, there is each of its entries. -/
theorem holds_entry {ts : List Lexeme} (hts : Spells ts (.value d))
    (hpage : ofDocument? d = some page) (hi : i < page.entries.length) :
    ∃ C e, EntryContext i C ∧ Holds ts C e := by
  have hne : page.entries ≠ [] := List.ne_nil_of_length_pos (Nat.zero_lt_of_lt hi)
  obtain ⟨data, links, hfields, hread⟩ := exists_of_ofDocument? hpage hne
  obtain ⟨ds, hepisodes, hitems⟩ := exists_of_readEntries? hread
  obtain ⟨F, hF, hdata⟩ := (Holds.here hts).firstField hfields
  obtain ⟨G, hG, hlist⟩ := hdata.firstField hepisodes
  have hlength : i < ds.length := itemValues?_length hitems ▸ hi
  rw [← List.take_append_drop i ds, List.drop_eq_getElem_cons hlength] at hlist
  have hcontext : EntryContext (ds.take i).length fun d =>
      F (G (.array (ds.take i ++ d :: ds.drop (i + 1)))) := .mk hF hG
  rw [List.length_take_of_le hlength.le] at hcontext
  exact ⟨_, _, hcontext, hlist.item⟩

/-- A page in whose document one entry is replaced. -/
theorem ofDocument?_replace {e : Document} (hC : EntryContext i C)
    (hpage : ofDocument? (C e) = some page) : ∃ front old rear, front.length = i ∧
      page.entries = front ++ old :: rear ∧ e.value? entryRoom = some old ∧ ∀ e',
        ofDocument? (C e') =
          (e'.value? entryRoom).map fun v => { page with entries := front ++ v :: rear } := by
  obtain ⟨hF, hG⟩ := hC
  next before after =>
  rcases ofDocument?_eq hF hG with hnone | ⟨next, hsome⟩
  · simp [hnone] at hpage
  · rw [hsome, readItems?_append] at hpage
    simp only [Option.map_eq_some_iff, Option.bind_eq_some_iff] at hpage
    obtain ⟨entries, ⟨front, hfront, rear, hrear, old, hold, rfl⟩, rfl⟩ := hpage
    refine ⟨front, old, rear, itemValues?_length hfront, rfl, hold, fun e' => ?_⟩
    rw [hsome, readItems?_append, hfront, hrear]
    simp only [Option.bind_some, Option.map_map]
    rfl

theorem ofText?_eq {s : List Char} (h : IsText s d) :
    ofText? (String.ofList s) = ofDocument? d := by
  rw [ofText?, Document.ofText?, String.toList_ofList, Document.ofChars?_iff.mpr h]
  rfl

theorem exists_of_ofText? {s : String} (h : ofText? s = some page) :
    ∃ d, IsText s.toList d ∧ ofDocument? d = some page := by
  obtain ⟨d, htext, hpage⟩ := Option.bind_eq_some_iff.mp h
  exact ⟨d, Document.ofChars?_iff.mp htext, hpage⟩

end Page

/-! ### Texts of pages -/

/-- The text of a page in three parts, the one in the middle being that of the entry behind `i`
others. -/
structure EntryCut (body : List Char) (i : ℕ) (before entry after : List Char) : Prop where
  whole : body = before ++ entry ++ after
  place : ∃ C e, EntryContext i C ∧ TextContext before after C ∧ IsText entry e

def episodesOf (series : String) (vs : List Value) : List Episode :=
  (vs.filterMap Entry.ofValue?).map (Entry.toEpisode series)

theorem episodesOf_append (series : String) (vs ws : List Value) :
    episodesOf series (vs ++ ws) = episodesOf series vs ++ episodesOf series ws := by
  simp only [episodesOf, List.filterMap_append, List.map_append]

/-- A page with a value in the place of the entry behind `i` others. Every other entry is the same,
its episodes stand where they stood, and there is a next page exactly if there was one. -/
structure WithEntry (page : Page) (i : ℕ) (v : Value) (page' : Page) : Prop where
  entries : page'.entries = page.entries.take i ++ v :: page.entries.drop (i + 1)
  episodes : ∀ series, page'.episodes series = episodesOf series (page.entries.take i) ++
    episodesOf series [v] ++ episodesOf series (page.entries.drop (i + 1))
  hasNext : page'.hasNext = page.hasNext

/-- What replacing the entry behind `i` others does to a page. Its text can be found, and any text
of JSON may take its place. What can be kept becomes the new entry and leaves the others alone;
anything else takes the whole page away. -/
structure ReplacementSpec (body : String) (page : Page) (i : ℕ) : Prop where
  found : ∃ before entry after, EntryCut body.toList i before entry after
  kept : ∀ before entry after, EntryCut body.toList i before entry after →
    ∀ text e, IsText text e → e.Kept entryRoom → ∃ v page', e.value? entryRoom = some v ∧
      Page.ofText? (String.ofList (before ++ text ++ after)) = some page' ∧
        WithEntry page i v page'
  lost : ∀ before entry after, EntryCut body.toList i before entry after →
    ∀ text e, IsText text e → ¬ e.Kept entryRoom →
      Page.ofText? (String.ofList (before ++ text ++ after)) = none

/-- Every entry of a page that is read can be replaced. -/
theorem Page.replacementSpec (body : String) (page : Page) (i : ℕ)
    (hpage : Page.ofText? body = some page) (hi : i < page.entries.length) :
    ReplacementSpec body page i := by
  obtain ⟨d, ⟨ts, hwritten, hspells⟩, hd⟩ := exists_of_ofText? hpage
  have hreplace {before entry after text : List Char} {e' : Document}
      (hcut : EntryCut body.toList i before entry after) (htext : IsText text e') :
      Page.ofText? (String.ofList (before ++ text ++ after)) = (e'.value? entryRoom).map fun v =>
        { page with entries := page.entries.take i ++ v :: page.entries.drop (i + 1) } := by
    obtain ⟨hwhole, C, e, hC, hcontext, hentry⟩ := hcut
    have hbody : ofDocument? (C e) = some page := by
      rw [← ofText?_eq (hcontext.isText hentry), ← hwhole, String.ofList_toList, hpage]
    obtain ⟨front, old, rear, hlength, hentries, -, hall⟩ := ofDocument?_replace hC hbody
    rw [ofText?_eq (hcontext.isText htext), hall, hentries, ← hlength]
    simp
  refine ⟨?_, fun before entry after hcut text e htext hkept => ?_,
    fun before entry after hcut text e htext hkept => ?_⟩
  · obtain ⟨C, e, hC, hholds⟩ := holds_entry hspells hd hi
    obtain ⟨before, entry, after, hwhole, hcontext, hentry⟩ := hholds.text hwritten
    exact ⟨before, entry, after, hwhole, C, e, hC, hcontext, hentry⟩
  · obtain ⟨v, hv⟩ := Option.ne_none_iff_exists'.mp ((e.kept_iff entryRoom).mp hkept)
    let page' : Page := { page with
      entries := page.entries.take i ++ v :: page.entries.drop (i + 1) }
    have hread : Page.ofText? (String.ofList (before ++ text ++ after)) = some page' := by
      rw [hreplace hcut htext, hv]
      rfl
    refine ⟨v, page', hv, hread, rfl, fun series => ?_, rfl⟩
    rw [← episodesOf_append, ← episodesOf_append, List.append_assoc]
    rfl
  · have hnone : e.value? entryRoom = none := not_ne_iff.mp fun h => hkept ((e.kept_iff _).mpr h)
    rw [hreplace hcut htext, hnone, Option.map_none]

/-- A page whose second entry is odd, but can be kept. -/
theorem Page.replacementSpec_second :
    let body := "\x7b\"data\":\x7b\"episodes\":[\x7b\"number\":7\x7d,null]\x7d\x7d"
    let page : Page := ⟨[.object [("number", .number (.integer 7))], .null], none⟩
    Page.ofText? body = some page ∧ 1 < page.entries.length ∧ ReplacementSpec body page 1 := by
  intro body page
  have hpage : Page.ofText? body = some page := by cbv
  have hi : 1 < page.entries.length := by decide
  exact ⟨hpage, hi, Page.replacementSpec body page 1 hpage hi⟩

/-- A number out of range is JSON, and in the place of the second entry it takes the first one away
as well. -/
theorem Page.ofText?_outOfRange :
    let body (entry : String) :=
      "\x7b\"data\":\x7b\"episodes\":[\x7b\"number\":7\x7d," ++ entry ++ "]\x7d\x7d"
    (Page.ofText? (body "null")).map (Page.episodes "42") = some [⟨"42", 0, 7, "", ""⟩] ∧
      IsText "1e999".toList (.number ⟨false, [1], none, some 999⟩) ∧
      Page.ofText? (body "1e999") = none :=
  ⟨by cbv, Document.ofChars?_iff.mp (by cbv), by decide +kernel⟩

end EpisodeGuide.Provider
