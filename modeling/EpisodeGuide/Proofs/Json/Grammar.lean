import EpisodeGuide.Json.Document
import EpisodeGuide.Proofs.Json.Lexeme

/-! # The grammar of JSON

A document is spelled by its lexemes, and reading finds it exactly then. Within the text of a
document, the text of any part can be exchanged for the text of another one. -/

namespace EpisodeGuide.Json

/-- What a run of lexemes can spell: a value, or what stands between brackets or braces. -/
inductive Part where
  | value (d : Document)
  | items (ds : List Document)
  | members (ms : List (List Piece × Document))

inductive Spells : List Lexeme → Part → Prop where
  | null : Spells [.null] (.value .null)
  | bool (b) : Spells [.bool b] (.value (.bool b))
  | number (n) : Spells [.number n] (.value (.number n))
  | text (ps) : Spells [.text ps] (.value (.text ps))
  | emptyArray : Spells [.openBracket, .closeBracket] (.value (.array []))
  | array {ts ds} : Spells ts (.items ds) →
      Spells (.openBracket :: (ts ++ [.closeBracket])) (.value (.array ds))
  | emptyObject : Spells [.openBrace, .closeBrace] (.value (.object []))
  | object {ts ms} : Spells ts (.members ms) →
      Spells (.openBrace :: (ts ++ [.closeBrace])) (.value (.object ms))
  | lastItem {ts d} : Spells ts (.value d) → Spells ts (.items [d])
  | item {ts us d ds} : Spells ts (.value d) → Spells us (.items ds) →
      Spells (ts ++ .comma :: us) (.items (d :: ds))
  | lastMember {ts d} (k) : Spells ts (.value d) →
      Spells (.text k :: .colon :: ts) (.members [(k, d)])
  | member {ts us d ms} (k) : Spells ts (.value d) → Spells us (.members ms) →
      Spells (.text k :: .colon :: (ts ++ .comma :: us)) (.members ((k, d) :: ms))

/-! ### Spelled documents are read -/

theorem readValue_openBracket {stack : List Frame} {ts : List Lexeme}
    (h : ts.head? ≠ some .closeBracket) :
    readValue stack (.openBracket :: ts) = readValue (.array [] :: stack) ts := by
  cases ts with
  | nil => simp [readValue]
  | cons t ts => cases t <;> simp_all [readValue]

theorem Spells.head_ne {ts : List Lexeme} {p : Part} (h : Spells ts p) (rest : List Lexeme) :
    (ts ++ rest).head? ≠ some .closeBracket := by
  induction h generalizing rest with
  | lastItem _ ih => exact ih rest
  | item _ _ ih =>
      rw [List.append_assoc]
      exact ih _
  | _ => simp

/-- What the reader does with a part: it puts a value where the stack says, and closes the array or
object that items or members stand in. -/
def IsRead (ts : List Lexeme) : Part → Prop
  | .value d => ∀ stack rest, readValue stack (ts ++ rest) = readRest stack d rest
  | .items ds => ∀ done stack rest, readValue (.array done :: stack) (ts ++ .closeBracket :: rest) =
      readRest stack (.array (done.reverse ++ ds)) rest
  | .members ms => ∃ k us, ts = .text k :: .colon :: us ∧ ∀ done stack rest,
      readValue (.object done k :: stack) (us ++ .closeBrace :: rest) =
        readRest stack (.object (done.reverse ++ ms)) rest

theorem Spells.isRead {ts : List Lexeme} {p : Part} (h : Spells ts p) : IsRead ts p := by
  induction h with
  | null | bool | number | text | emptyArray | emptyObject =>
      exact fun stack rest => by simp [readValue]
  | array hitems ih =>
      intro stack rest
      rw [List.cons_append, List.append_assoc, readValue_openBracket (hitems.head_ne _)]
      exact ih [] stack rest
  | object hmembers ih =>
      intro stack rest
      obtain ⟨k, us, rfl, hread⟩ := ih
      have hfirst := hread [] stack rest
      simpa [readValue] using hfirst
  | lastItem _ ih =>
      intro done stack rest
      rw [ih]
      simp [readRest]
  | item _ _ ih ih' =>
      intro done stack rest
      rw [List.append_assoc, ih, List.cons_append, readRest, ih']
      simp
  | @lastMember ts d k _ ih =>
      refine ⟨k, ts, rfl, fun done stack rest => ?_⟩
      rw [ih]
      simp [readRest]
  | @member ts us d ms k _ _ ih ih' =>
      obtain ⟨k', us', rfl, hread⟩ := ih'
      refine ⟨k, _, rfl, fun done stack rest => ?_⟩
      rw [List.append_assoc, ih, List.cons_append, List.cons_append, List.cons_append, readRest,
        hread]
      simp

/-! ### Read documents are spelled -/

/-- What the lexemes that the reader takes from a stack of frames spell. -/
structure ReadSound (ts : List Lexeme) : Prop where
  value : ∀ {stack d'}, readValue stack ts = some d' → ∃ d us rest, ts = us ++ rest ∧
    Spells us (.value d) ∧ readRest stack d rest = some d'
  items : ∀ {done stack d'}, readValue (.array done :: stack) ts = some d' → ∃ ds us rest,
    ts = us ++ .closeBracket :: rest ∧ Spells us (.items ds) ∧
      readRest stack (.array (done.reverse ++ ds)) rest = some d'
  members : ∀ {done stack d'} k, readValue (.object done k :: stack) ts = some d' → ∃ ms us rest,
    ts = us ++ .closeBrace :: rest ∧ Spells (.text k :: .colon :: us) (.members ms) ∧
      readRest stack (.object (done.reverse ++ ms)) rest = some d'

theorem readRest_array {done : List Document} {stack : List Frame} {d d' : Document}
    {ts : List Lexeme} (h : readRest (.array done :: stack) d ts = some d') :
    (∃ us, ts = .comma :: us ∧ readValue (.array (d :: done) :: stack) us = some d') ∨
      ∃ us, ts = .closeBracket :: us ∧
        readRest stack (.array (d :: done).reverse) us = some d' := by
  unfold readRest at h
  split at h <;> simp_all

theorem readRest_object {done : List (List Piece × Document)} {k : List Piece}
    {stack : List Frame} {d d' : Document} {ts : List Lexeme}
    (h : readRest (.object done k :: stack) d ts = some d') :
    (∃ k' us, ts = .comma :: .text k' :: .colon :: us ∧
        readValue (.object ((k, d) :: done) k' :: stack) us = some d') ∨
      ∃ us, ts = .closeBrace :: us ∧
        readRest stack (.object ((k, d) :: done).reverse) us = some d' := by
  unfold readRest at h
  split at h <;> simp_all

theorem readSound (ts : List Lexeme) : ReadSound ts := by
  induction hlength : ts.length using Nat.strong_induction_on generalizing ts with
  | _ n ih =>
  subst hlength
  have hshorter {us : List Lexeme} (h : us.length < ts.length) : ReadSound us :=
    ih us.length h us rfl
  have hvalue {stack d'} (h : readValue stack ts = some d') : ∃ d us rest, ts = us ++ rest ∧
      Spells us (.value d) ∧ readRest stack d rest = some d' := by
    unfold readValue at h
    split at h
    · exact ⟨_, _, _, rfl, .null, h⟩
    · exact ⟨_, _, _, rfl, .bool _, h⟩
    · exact ⟨_, _, _, rfl, .number _, h⟩
    · exact ⟨_, _, _, rfl, .text _, h⟩
    · exact ⟨_, _, _, rfl, .emptyArray, h⟩
    · next us _ =>
      obtain ⟨ds, us, rest, rfl, hspells, hrest⟩ := (hshorter (by simp)).items h
      exact ⟨_, .openBracket :: (us ++ [.closeBracket]), rest, by simp, .array hspells, hrest⟩
    · exact ⟨_, _, _, rfl, .emptyObject, h⟩
    · next k us =>
      obtain ⟨ms, us, rest, rfl, hspells, hrest⟩ := (hshorter (by simp; omega)).members k h
      exact ⟨_, .openBrace :: (.text k :: .colon :: us ++ [.closeBrace]), rest, by simp,
        .object hspells, hrest⟩
    · cases h
  refine ⟨hvalue, fun h => ?_, fun k h => ?_⟩
  · obtain ⟨d, us, rest, rfl, hspells, hrest⟩ := hvalue h
    rcases readRest_array hrest with ⟨vs, rfl, hread⟩ | ⟨vs, rfl, hread⟩
    · obtain ⟨ds, us', rest', rfl, hspells', hrest'⟩ := (hshorter (by simp; omega)).items hread
      exact ⟨d :: ds, us ++ .comma :: us', rest', by simp, .item hspells hspells',
        by simpa using hrest'⟩
    · exact ⟨[d], us, vs, rfl, .lastItem hspells, by simpa using hread⟩
  · obtain ⟨d, us, rest, rfl, hspells, hrest⟩ := hvalue h
    rcases readRest_object hrest with ⟨k', vs, rfl, hread⟩ | ⟨vs, rfl, hread⟩
    · obtain ⟨ms, us', rest', rfl, hspells', hrest'⟩ :=
        (hshorter (by simp; omega)).members k' hread
      exact ⟨(k, d) :: ms, us ++ .comma :: .text k' :: .colon :: us', rest', by simp,
        .member k hspells hspells', by simpa using hrest'⟩
    · exact ⟨[(k, d)], us, vs, rfl, .lastMember k hspells, by simpa using hread⟩

/-- The reader gets a document from lexemes exactly if they spell it. -/
theorem readValue_iff {ts : List Lexeme} {d : Document} :
    readValue [] ts = some d ↔ Spells ts (.value d) := by
  constructor
  · intro h
    obtain ⟨d', us, rest, rfl, hspells, hrest⟩ := (readSound ts).value h
    cases rest with
    | nil =>
        obtain rfl : d' = d := by simpa [readRest] using hrest
        rwa [List.append_nil]
    | cons t rest => simp [readRest] at hrest
  · intro h
    have hread := h.isRead [] []
    rwa [List.append_nil, readRest] at hread

/-! ### Texts of documents -/

/-- The text, spaces left out, spells the document. -/
def IsText (s : List Char) (d : Document) : Prop :=
  ∃ ts, Written s ts ∧ Spells ts (.value d)

theorem Apart.comma {ts us : List Lexeme} (hts : Apart ts) (hus : Apart us) :
    Apart (ts ++ .comma :: us) := by
  refine List.isChain_append.mpr ⟨hts, hus.cons fun _ _ h => ?_, fun _ _ u hu _ => ?_⟩
  · cases h
  · obtain rfl := Option.some.inj hu
    rfl

theorem Apart.bracket {t u : Lexeme} {ts : List Lexeme} (hts : Apart ts) (ht : t.isNumber = false)
    (hu : u.isNumber = false) : Apart (t :: (ts ++ [u])) := by
  refine (List.isChain_append.mpr ⟨hts, .singleton u, fun _ _ v hv _ => ?_⟩).cons fun _ _ h => ?_
  · obtain rfl := Option.some.inj hv
    exact hu
  · rw [ht] at h
    cases h

theorem Apart.key {k : List Piece} {ts : List Lexeme} (hts : Apart ts) :
    Apart (.text k :: .colon :: ts) := by
  refine (hts.cons fun _ _ h => ?_).cons fun _ _ h => ?_
  · cases h
  · cases h

theorem Spells.apart {ts : List Lexeme} {p : Part} (h : Spells ts p) : Apart ts := by
  induction h with
  | null | bool | number | text => exact .singleton _
  | emptyArray | emptyObject => exact .cons_cons (fun _ => rfl) (.singleton _)
  | array _ ih | object _ ih => exact ih.bracket rfl rfl
  | lastItem _ ih => exact ih
  | item _ _ ih ih' => exact ih.comma ih'
  | lastMember _ _ ih => exact ih.key
  | member _ _ _ ih ih' => exact (ih.comma ih').key

/-- A text is read as a document exactly if it spells that document. -/
theorem Document.ofChars?_iff {s : List Char} {d : Document} :
    Document.ofChars? s = some d ↔ IsText s d := by
  rw [Document.ofChars?, Option.bind_eq_some_iff]
  constructor
  · rintro ⟨ts, hts, hread⟩
    exact ⟨ts, written_of_lexemes hts, readValue_iff.mp hread⟩
  · rintro ⟨ts, hwritten, hspells⟩
    exact ⟨ts, lexemes_of_written hwritten hspells.apart, readValue_iff.mpr hspells⟩

/-! ### Parts of a text -/

/-- Lexemes in front of an item or a member: nothing, or others and a comma. -/
inductive Before {α : Type} (part : List α → Part) : List Lexeme → List α → Prop where
  | nothing : Before part [] []
  | some {ts xs} : Spells ts (part xs) → Before part (ts ++ [.comma]) xs

/-- Lexemes behind an item or a member: nothing, or a comma and others. -/
inductive After {α : Type} (part : List α → Part) : List Lexeme → List α → Prop where
  | nothing : After part [] []
  | some {ts xs} : Spells ts (part xs) → After part (.comma :: ts) xs

/-- Lexemes in front of a value and behind it, and the document that they make of the value. -/
inductive Context : List Lexeme → List Lexeme → (Document → Document) → Prop where
  | here : Context [] [] id
  | item {b a C b' a' ds es} : Context b a C → Before .items b' ds → After .items a' es →
      Context (b ++ .openBracket :: b') (a' ++ .closeBracket :: a)
        (fun d => C (.array (ds ++ d :: es)))
  | member {b a C b' a' ms ns} (k) : Context b a C → Before .members b' ms →
      After .members a' ns → Context (b ++ .openBrace :: (b' ++ [.text k, .colon]))
        (a' ++ .closeBrace :: a) (fun d => C (.object (ms ++ (k, d) :: ns)))

section Parts

variable {b a ts us : List Lexeme} {C : Document → Document} {d : Document} {k : List Piece}
  {ds es : List Document} {ms ns : List (List Piece × Document)}

theorem Spells.append_items (h : Spells ts (.items ds)) (h' : Spells us (.items es)) :
    Spells (ts ++ .comma :: us) (.items (ds ++ es)) := by
  induction ds generalizing ts with
  | nil => cases h
  | cons d ds ih =>
      cases h with
      | lastItem hd => exact .item hd h'
      | item hd hds =>
          rw [List.append_assoc, List.cons_append]
          exact .item hd (ih hds)

theorem Spells.append_members (h : Spells ts (.members ms)) (h' : Spells us (.members ns)) :
    Spells (ts ++ .comma :: us) (.members (ms ++ ns)) := by
  induction ms generalizing ts with
  | nil => cases h
  | cons m ms ih =>
      cases h with
      | lastMember k hd => exact .member k hd h'
      | member k hd hms =>
          rw [List.cons_append, List.cons_append, List.append_assoc, List.cons_append]
          exact .member k hd (ih hms)

/-- What stands before, at and behind an item are the items of an array. -/
theorem spells_items (hb : Before .items b ds) (h : Spells ts (.value d)) (ha : After .items a es) :
    Spells (b ++ ts ++ a) (.items (ds ++ d :: es)) := by
  have hrest : Spells (ts ++ a) (.items (d :: es)) := by
    cases ha with
    | nothing =>
        rw [List.append_nil]
        exact .lastItem h
    | some hes => exact .item h hes
  rw [List.append_assoc]
  cases hb with
  | nothing => exact hrest
  | some hds =>
      rw [List.append_assoc]
      exact hds.append_items hrest

theorem spells_members (hb : Before .members b ms) (h : Spells ts (.value d))
    (ha : After .members a ns) :
    Spells (b ++ .text k :: .colon :: (ts ++ a)) (.members (ms ++ (k, d) :: ns)) := by
  have hrest : Spells (.text k :: .colon :: (ts ++ a)) (.members ((k, d) :: ns)) := by
    cases ha with
    | nothing =>
        rw [List.append_nil]
        exact .lastMember k h
    | some hns => exact .member k h hns
  cases hb with
  | nothing => exact hrest
  | some hms =>
      rw [List.append_assoc]
      exact hms.append_members hrest

theorem Context.spells (h : Context b a C) (hts : Spells ts (.value d)) :
    Spells (b ++ ts ++ a) (.value (C d)) := by
  induction h generalizing ts d with
  | here => simpa using hts
  | item _ hb ha ih => simpa using ih (.array (spells_items hb hts ha))
  | member k _ hb ha ih => simpa using ih (.object (spells_members hb hts ha))

theorem Spells.items_cons (h : Spells ts (.items (d :: ds))) :
    (ds = [] ∧ Spells ts (.value d)) ∨
      ∃ us vs, ts = us ++ .comma :: vs ∧ Spells us (.value d) ∧ Spells vs (.items ds) := by
  cases h with
  | lastItem hd => exact .inl ⟨rfl, hd⟩
  | item hd hds => exact .inr ⟨_, _, rfl, hd, hds⟩

theorem Spells.members_cons (h : Spells ts (.members ((k, d) :: ms))) :
    (ms = [] ∧ ∃ us, ts = .text k :: .colon :: us ∧ Spells us (.value d)) ∨
      ∃ us vs, ts = .text k :: .colon :: (us ++ .comma :: vs) ∧ Spells us (.value d) ∧
        Spells vs (.members ms) := by
  cases h with
  | lastMember _ hd => exact .inl ⟨rfl, _, rfl, hd⟩
  | member _ hd hms => exact .inr ⟨_, _, rfl, hd, hms⟩

theorem Before.cons_item (hb : Before .items b ds) (h : Spells ts (.value d)) :
    Before .items (ts ++ .comma :: b) (d :: ds) := by
  cases hb with
  | nothing => exact .some (.lastItem h)
  | some hds =>
      rw [← List.cons_append, ← List.append_assoc]
      exact .some (.item h hds)

theorem Before.cons_member (hb : Before .members b ms) (h : Spells ts (.value d)) :
    Before .members (.text k :: .colon :: (ts ++ .comma :: b)) ((k, d) :: ms) := by
  cases hb with
  | nothing => exact .some (.lastMember k h)
  | some hms =>
      have hmore := Before.some (.member k h hms)
      simpa using hmore

theorem split_items (h : Spells ts (.items (ds ++ d :: es))) : ∃ b us a, ts = b ++ us ++ a ∧
    Before .items b ds ∧ Spells us (.value d) ∧ After .items a es := by
  induction ds generalizing ts with
  | nil =>
      rcases h.items_cons with ⟨rfl, hd⟩ | ⟨us, vs, rfl, hd, hes⟩
      · exact ⟨[], ts, [], by simp, .nothing, hd, .nothing⟩
      · exact ⟨[], us, _, rfl, .nothing, hd, .some hes⟩
  | cons x ds ih =>
      rcases h.items_cons with ⟨hnil, -⟩ | ⟨us, vs, rfl, hx, hrest⟩
      · simp at hnil
      · obtain ⟨b, us', a, rfl, hb, hd, ha⟩ := ih hrest
        exact ⟨us ++ .comma :: b, us', a, by simp, hb.cons_item hx, hd, ha⟩

theorem split_members (h : Spells ts (.members (ms ++ (k, d) :: ns))) : ∃ b us a,
    ts = b ++ .text k :: .colon :: (us ++ a) ∧ Before .members b ms ∧ Spells us (.value d) ∧
      After .members a ns := by
  induction ms generalizing ts with
  | nil =>
      rcases h.members_cons with ⟨rfl, us, rfl, hd⟩ | ⟨us, vs, rfl, hd, hns⟩
      · exact ⟨[], us, [], by simp, .nothing, hd, .nothing⟩
      · exact ⟨[], us, _, rfl, .nothing, hd, .some hns⟩
  | cons m ms ih =>
      obtain ⟨k', x⟩ := m
      rcases h.members_cons with ⟨hnil, -⟩ | ⟨us, vs, rfl, hx, hrest⟩
      · simp at hnil
      · obtain ⟨b, us', a, rfl, hb, hd, ha⟩ := ih hrest
        exact ⟨.text k' :: .colon :: (us ++ .comma :: b), us', a, by simp, hb.cons_member hx, hd,
          ha⟩

theorem Spells.array_split (h : Spells ts (.value (.array (ds ++ d :: es)))) : ∃ b us a,
    ts = .openBracket :: (b ++ us ++ a ++ [.closeBracket]) ∧ Before .items b ds ∧
      Spells us (.value d) ∧ After .items a es := by
  generalize hall : ds ++ d :: es = all at h
  cases h with
  | emptyArray => simp at hall
  | array hitems =>
      subst hall
      obtain ⟨b, us, a, rfl, hb, hd, ha⟩ := split_items hitems
      exact ⟨b, us, a, rfl, hb, hd, ha⟩

theorem Spells.object_split (h : Spells ts (.value (.object (ms ++ (k, d) :: ns)))) : ∃ b us a,
    ts = .openBrace :: (b ++ .text k :: .colon :: (us ++ a) ++ [.closeBrace]) ∧
      Before .members b ms ∧ Spells us (.value d) ∧ After .members a ns := by
  generalize hall : ms ++ (k, d) :: ns = all at h
  cases h with
  | emptyObject => simp at hall
  | object hmembers =>
      subst hall
      obtain ⟨b, us, a, rfl, hb, hd, ha⟩ := split_members hmembers
      exact ⟨b, us, a, rfl, hb, hd, ha⟩

/-- The lexemes hold those of a document, in a context that makes them all. -/
def Holds (ts : List Lexeme) (C : Document → Document) (d : Document) : Prop :=
  ∃ b us a, ts = b ++ us ++ a ∧ Context b a C ∧ Spells us (.value d)

theorem Holds.here (h : Spells ts (.value d)) : Holds ts id d :=
  ⟨[], ts, [], by simp, .here, h⟩

theorem Holds.item (h : Holds ts C (.array (ds ++ d :: es))) :
    Holds ts (fun d => C (.array (ds ++ d :: es))) d := by
  obtain ⟨b, us, a, rfl, hcontext, hspells⟩ := h
  obtain ⟨b', us, a', rfl, hb, hd, ha⟩ := hspells.array_split
  exact ⟨_, us, _, by simp, .item hcontext hb ha, hd⟩

theorem Holds.member (h : Holds ts C (.object (ms ++ (k, d) :: ns))) :
    Holds ts (fun d => C (.object (ms ++ (k, d) :: ns))) d := by
  obtain ⟨b, us, a, rfl, hcontext, hspells⟩ := h
  obtain ⟨b', us, a', rfl, hb, hd, ha⟩ := hspells.object_split
  exact ⟨_, us, _, by simp, .member k hcontext hb ha, hd⟩

/-- Texts in front of a value and behind it, and the document that they make of the value. -/
def TextContext (before after : List Char) (C : Document → Document) : Prop :=
  ∃ b a, Written before b ∧ Written after a ∧ Context b a C

theorem TextContext.isText {before text after : List Char} (h : TextContext before after C)
    (htext : IsText text d) : IsText (before ++ text ++ after) (C d) := by
  obtain ⟨b, a, hb, ha, hcontext⟩ := h
  obtain ⟨ts, hts, hspells⟩ := htext
  exact ⟨_, (hb.append hts).append ha, hcontext.spells hspells⟩

/-- Where lexemes hold those of a document, their text holds one of its texts. -/
theorem Holds.text {s : List Char} (h : Holds ts C d) (hs : Written s ts) :
    ∃ before text after, s = before ++ text ++ after ∧ TextContext before after C ∧
      IsText text d := by
  obtain ⟨b, us, a, rfl, hcontext, hspells⟩ := h
  obtain ⟨front, after, rfl, hfront, hafter⟩ := hs.split
  obtain ⟨before, text, rfl, hbefore, htext⟩ := hfront.split
  exact ⟨before, text, after, rfl, ⟨b, a, hbefore, hafter, hcontext⟩, us, htext, hspells⟩

end Parts

end EpisodeGuide.Json
