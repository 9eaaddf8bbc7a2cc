import EpisodeGuide.Proofs.Toml.Value
import Mathlib.Algebra.Group.Nat.Defs

/-! # Documents of TOML

A document with a line for each of some keys. If the keys are apart, every line adds its value and
leaves what the others added; beyond the limits of readers the whole document may be refused. -/

namespace EpisodeGuide.Toml

/-- A key and what stands under it. -/
structure Entry where
  key : List String × String
  content : Content

def Entry.single (name : String) (content : Content) : Entry :=
  ⟨([], name), content⟩

/-- A line without its break. -/
inductive LineText (limited : Prop) : List Char → Entry → Prop where
  | line {k key v content gap} : KeyEquals k key → (limited → key.1.length < maxKeyParts) →
      Spells limited v (.value maxDepth content) → IsGap gap →
      LineText limited (k ++ (v ++ gap)) ⟨key, content⟩

/-- A document with a line for each entry. The last line may end without a break. -/
inductive Document (limited : Prop) : List Char → List Entry → Prop where
  | nil : Document limited [] []
  | last {s entry} : LineText limited s entry → Document limited s [entry]
  | line {s r entry entries} : LineText limited s entry → Document limited r entries →
      Document limited (s ++ '\n' :: r) (entry :: entries)

/-- The end of a line, nothing or a break, in front of the other lines. -/
inductive LineEnd : List Char → List Char → Prop where
  | last : LineEnd [] []
  | broken {rest} : LineEnd ('\n' :: rest) rest

def firstPart : List String × String → String
  | ([], key) => key
  | (part :: _, _) => part

/-- What the lines of a document add to the members before. -/
structure Added (entries : List Entry) (ms ms' : Members) : Prop where
  found : ∀ name content, .single name content ∈ entries →
    ∃ n, ms'.get? name = some n ∧ n.Holds content
  others : ∀ name, (∀ e ∈ entries, firstPart e.key ≠ name) → ms'.get? name = ms.get? name

variable {limited : Prop} {count : ℕ} {name : String} {key : List String × String}
  {content : Content} {entry : Entry} {entries : List Entry} {s k v tail rest : List Char}
  {ms ms' ms'' : Members} {n : Node}

/-! ### One line -/

theorem KeyEquals.ne_nil (h : KeyEquals k key) : k ≠ [] := by
  cases h
  simp

theorem LineText.ne_nil (h : LineText limited s entry) : s ≠ [] := by
  cases h with
  | line hk => simp [hk.ne_nil]

/-- A line with a key is read as its key, its value and its end. -/
theorem takeLine_keyEquals (hk : KeyEquals k key) (hs : ∀ c ∈ s.head?, isSpace c = false) :
    takeLine (k ++ s) = if key.1.length < maxKeyParts then
        (takeValue (stepBound s) maxDepth s).bind fun (n, r) =>
          (endLine r).map fun r => (.member key.1 key.2 n, r)
      else none := by
  obtain ⟨c, r, hc, hkey, hskip⟩ := hk.skipSpaces
  have hread := takeKeyEquals_of_keyEquals hkey hs
  have hne {x : Char} (hx : ¬ StartsKey x) : c ≠ x := by
    rintro rfl
    exact hx hc
  rw [takeLine, hskip]
  split
  · contradiction
  · next heq => exact (hne (by unfold StartsKey; decide) (List.cons.inj heq).1).elim
  · next heq => exact (hne (by unfold StartsKey; decide) (List.cons.inj heq).1).elim
  · next heq => exact (hne (by unfold StartsKey; decide) (List.cons.inj heq).1).elim
  · next heq => exact (hne (by unfold StartsKey; decide) (List.cons.inj heq).1).elim
  · rw [← List.cons_append, hread]
    split
    · simp only [Option.bind_eq_bind, Option.bind_some]
      congr 1
      funext ⟨n, r⟩
      cases endLine r <;> rfl
    · rfl

theorem endLine_inside {c : Char} (hc : c ∈ ['.', 'e', 'E']) (r : List Char) :
    endLine (c :: r) = none := by
  rw [endLine, (skip_inside hc r).1]
  split
  · contradiction
  · next heq => exact absurd ((List.cons.inj heq).1 ▸ hc) (by decide)
  · next heq => exact absurd ((List.cons.inj heq).1 ▸ hc) (by decide)
  · rfl

theorem LineEnd.ends (h : LineEnd tail rest) : Ends tail := by
  cases h with
  | last => exact .nil
  | broken => exact .of_stopper (by decide) _

theorem LineEnd.endLine {gap : List Char} (h : LineEnd tail rest) (hgap : IsGap gap) :
    endLine (gap ++ tail) = some rest := by
  cases h with
  | last => simpa using endLine_last hgap
  | broken => exact endLine_gap hgap _

/-- A line is read as its entry, or beyond the limits not at all. -/
theorem takeLine_lineText (h : LineText limited s entry) (hend : LineEnd tail rest) :
    (∃ n : Node, n.Holds entry.content ∧
      takeLine (s ++ tail) = some (.member entry.key.1 entry.key.2 n, rest)) ∨
    ¬ limited ∧ takeLine (s ++ tail) = none := by
  cases h with
  | @line k key v content gap hk hlength hv hgap =>
      have hsteps : 2 * v.length < stepBound (v ++ (gap ++ tail)) := by
        simp only [stepBound, List.length_append]
        omega
      have hvalue := spells_isRead hv _ (gap ++ tail) hsteps (.gap_append hgap hend.ends)
      simp only [List.append_assoc]
      rw [takeLine_keyEquals hk (hv.head_not_space (gap ++ tail))]
      split
      · next hshort =>
        rcases hvalue with ⟨n, hread, hn⟩ | ⟨hbeyond, hinside⟩
        · exact .inl ⟨n, hn, by simp [hread, hend.endLine hgap]⟩
        · refine .inr ⟨hbeyond, ?_⟩
          cases hread : takeValue (stepBound (v ++ (gap ++ tail))) maxDepth
              (v ++ (gap ++ tail)) with
          | none => rfl
          | some read =>
              obtain ⟨c, r, hr, hc⟩ := hinside read.1 read.2 hread
              simp [hr, endLine_inside hc]
      · next hlong => exact .inr ⟨fun hlimited => hlong (hlength hlimited), rfl⟩

/-! ### All lines -/

/-- A line is taken into account where its key is free. -/
theorem readLines_lineText (count : ℕ) (h : LineText limited s entry) (hend : LineEnd tail rest)
    (hfree : ms.FreeIn entry.key.2 entry.key.1) :
    (∃ n ms', n.Holds entry.content ∧ ms.addDotted? entry.key.2 n entry.key.1 = some ms' ∧
      readLines (count + 1) ⟨ms, []⟩ (s ++ tail) = readLines count ⟨ms', []⟩ rest) ∨
    ¬ limited ∧ readLines (count + 1) ⟨ms, []⟩ (s ++ tail) = none := by
  obtain ⟨c, r, hs⟩ := List.exists_cons_of_ne_nil h.ne_nil
  have hread : readLines (count + 1) ⟨ms, []⟩ (s ++ tail) =
      (takeLine (s ++ tail)).bind fun read =>
        (State.add? ⟨ms, []⟩ read.1).bind fun st => readLines count st read.2 := by
    rw [hs]
    rfl
  rw [hread]
  rcases takeLine_lineText h hend with ⟨n, hn, hline⟩ | ⟨hbeyond, hline⟩
  · obtain ⟨ms', hadd⟩ := hfree.exists_addDotted? n
    refine .inl ⟨n, ms', hn, hadd, ?_⟩
    simp [hline, State.add?, Members.under?, hadd]
  · exact .inr ⟨hbeyond, by rw [hline]; rfl⟩

theorem Apart.firstPart_ne (h : Apart ([], name) key) : firstPart key ≠ name := by
  obtain ⟨- | ⟨part, path⟩, key⟩ := key
  · exact (apart_single_iff.mp h).symm
  · rintro rfl
    exact not_apart_single h

theorem get?_addDotted?_of_firstPart (h : ms.addDotted? key.2 n key.1 = some ms')
    (hne : firstPart key ≠ name) : ms'.get? name = ms.get? name := by
  obtain ⟨- | ⟨part, path⟩, key⟩ := key
  · exact (Members.get?_addDotted?_nil h name).trans (if_neg hne)
  · exact Members.get?_addDotted?_of_ne h hne

theorem Added.nil (ms : Members) : Added [] ms ms where
  found _ _ h := by cases h
  others _ _ := rfl

/-- Later lines leave what a line before has added. -/
theorem Added.cons (hn : n.Holds entry.content)
    (hadd : ms.addDotted? entry.key.2 n entry.key.1 = some ms')
    (hapart : ∀ e ∈ entries, Apart entry.key e.key) (h : Added entries ms' ms'') :
    Added (entry :: entries) ms ms'' where
  found name content hmem := by
    rcases List.mem_cons.mp hmem with rfl | hmem
    · have hlater : ∀ e ∈ entries, firstPart e.key ≠ name :=
        fun e he => Apart.firstPart_ne (hapart e he)
      have hget : ms'.get? name = some n :=
        (Members.get?_addDotted?_nil hadd name).trans (if_pos rfl)
      exact ⟨n, by rw [h.others name hlater, hget], hn⟩
    · exact h.found name content hmem
  others name hne := by
    obtain ⟨hfirst, hrest⟩ := List.forall_mem_cons.mp hne
    rw [h.others name hrest, get?_addDotted?_of_firstPart hadd hfirst]

theorem readLines_document (h : Document limited s entries)
    (hapart : entries.Pairwise fun e e' => Apart e.key e'.key)
    (hfree : ∀ e ∈ entries, ms.FreeIn e.key.2 e.key.1) (hcount : s.length < count) :
    (∃ ms', readLines count ⟨ms, []⟩ s = some ⟨ms', []⟩ ∧ Added entries ms ms') ∨
      ¬ limited ∧ readLines count ⟨ms, []⟩ s = none := by
  -- The induction is on the lines; the keys of those that are left stay free.
  induction h generalizing ms count with
  | nil =>
      obtain ⟨count, rfl⟩ := Nat.exists_eq_add_of_lt hcount
      exact .inl ⟨ms, rfl, .nil ms⟩
  | @last s entry hline =>
      have hpos := List.length_pos_of_ne_nil hline.ne_nil
      obtain ⟨count, rfl⟩ : ∃ n, count = n + 2 := ⟨count - 2, by omega⟩
      have hstep := readLines_lineText (count + 1) hline .last (hfree entry (by simp))
      rw [List.append_nil] at hstep
      rcases hstep with ⟨n, ms', hn, hadd, hread⟩ | ⟨hbeyond, hread⟩
      · exact .inl ⟨ms', hread, .cons hn hadd (by simp) (.nil ms')⟩
      · exact .inr ⟨hbeyond, hread⟩
  | @line s r entry entries hline _ ih =>
      rw [List.length_append, List.length_cons] at hcount
      obtain ⟨count, rfl⟩ : ∃ n, count = n + 1 := ⟨count - 1, by omega⟩
      obtain ⟨hfirst, hrest⟩ := List.pairwise_cons.mp hapart
      obtain ⟨hkey, hkeys⟩ := List.forall_mem_cons.mp hfree
      rcases readLines_lineText count hline .broken hkey with
        ⟨n, ms', hn, hadd, hread⟩ | ⟨hbeyond, hread⟩
      · have hfree' : ∀ e ∈ entries, ms'.FreeIn e.key.2 e.key.1 :=
          fun e he => (hkeys e he).addDotted? (hfirst e he) hadd
        rw [hread]
        exact (ih hrest hfree' (by omega)).imp_left fun ⟨ms'', hread', hadded⟩ =>
          ⟨ms'', hread', hadded.cons hn hadd hfirst⟩
      · exact .inr ⟨hbeyond, hread⟩

/-- A document whose keys are apart is read as its entries, or beyond the limits not at all. -/
theorem membersOfText?_document {text : String}
    (h : Document limited (unifyBreaks (dropMark text.toList)) entries)
    (hapart : entries.Pairwise fun e e' => Apart e.key e'.key) :
    (∃ ms, membersOfText? text = some ms ∧ Added entries [] ms) ∨
      ¬ limited ∧ membersOfText? text = none := by
  have hfree : ∀ e ∈ entries, Members.FreeIn e.key.2 e.key.1 [] :=
    fun e _ => Members.freeIn_nil e.key.2 e.key.1
  rcases readLines_document h hapart hfree (Nat.lt_succ_self _) with
    ⟨ms, hread, hadded⟩ | ⟨hbeyond, hread⟩
  · exact .inl ⟨ms, by simp [membersOfText?, hread], hadded⟩
  · exact .inr ⟨hbeyond, by simp [membersOfText?, hread]⟩

/-! ### Documents that are written -/

theorem unifyBreaks_of_not_mem (h : '\r' ∉ s) : unifyBreaks s = s := by
  induction s with
  | nil => rfl
  | cons c s ih =>
      rw [List.mem_cons, not_or] at h
      rw [unifyBreaks.eq_def]
      split
      · next heq => exact (h.1 (List.cons.inj heq).1.symm).elim
      · next heq =>
        obtain ⟨rfl, rfl⟩ := List.cons.inj heq
        rw [ih h.2]
      · next heq => cases heq

/-- A name that can be a key without quotes. -/
def IsBareName (name : String) : Prop :=
  name.toList ≠ [] ∧ ∀ c ∈ name.toList, isBareKeyChar c = true

instance (name : String) : Decidable (IsBareName name) :=
  decidable_of_iff (name.toList ≠ [] ∧ name.toList.all isBareKeyChar = true) (by simp [IsBareName])

/-- A text, or an integer from zero that a reader can hold. -/
inductive Writable : Content → Prop where
  | text (s : String) : Writable (.text s)
  | integer {n : ℕ} : n < 2 ^ 63 → Writable (.integer n)

theorem Writable.exists_spells (h : Writable content) (room : ℕ) :
    ∃ v, Spells True v (.value room content) ∧ '\r' ∉ v := by
  cases h with
  | text t =>
      obtain ⟨s, hs, hbreak⟩ := exists_basicText t.toList
      have hv : Spells True _ (.value room (.text (String.ofList t.toList))) :=
        .text (.line (.basic hs))
      rw [String.ofList_toList] at hv
      exact ⟨_, hv, by simp [hbreak]⟩
  | @integer n hn =>
      obtain ⟨w, ds, hw, rfl, hbreak⟩ := exists_wholeText n
      refine ⟨w, .integer (.decimal .none hw) fun _ => ?_, hbreak⟩
      simp only [Word.fitsSigned64, Bool.and_eq_true, decide_eq_true_eq]
      omega

/-- A bare name, an equals sign and a value are a line. -/
theorem LineText.of_name (hname : IsBareName name)
    (hv : Spells limited v (.value maxDepth content)) :
    LineText limited (name.toList ++ ' ' :: '=' :: ' ' :: v) (.single name content) := by
  have hpart := KeyPart.bare hname.1 hname.2
  rw [String.ofList_toList] at hpart
  have hgap : IsGap [' '] := by simp [IsGap, isSpace]
  have hline := LineText.line (.equals isGap_nil (.last hpart) hgap hgap)
    (fun _ => by simp [maxKeyParts]) hv isGap_nil
  simpa [Entry.single] using hline

theorem exists_lineText (hname : IsBareName name) (h : Writable content) :
    ∃ c r, LineText True (c :: r) (.single name content) ∧ isBareKeyChar c = true ∧
      '\r' ∉ c :: r := by
  obtain ⟨v, hv, hbreak⟩ := h.exists_spells maxDepth
  have hline := LineText.of_name hname hv
  obtain ⟨hne, hbare⟩ := hname
  have hname : '\r' ∉ name.toList := fun hmem => absurd (hbare _ hmem) (by decide)
  obtain ⟨c, r, heq⟩ := List.exists_cons_of_ne_nil hne
  rw [heq] at hline hname
  exact ⟨c, _, hline, hbare c (by simp [heq]), by simpa [hbreak] using hname⟩

/-- Entries under bare names can be written, a line for each. -/
theorem exists_document (h : ∀ e ∈ entries, ∃ name content, e = .single name content ∧
    IsBareName name ∧ Writable content) :
    ∃ text : String, Document True (unifyBreaks (dropMark text.toList)) entries := by
  obtain ⟨s, hs, hbreak, hmark⟩ : ∃ s, Document True s entries ∧ '\r' ∉ s ∧ dropMark s = s := by
    induction entries with
    | nil => exact ⟨[], .nil, by simp, rfl⟩
    | cons e entries ih =>
        obtain ⟨⟨name, content, rfl, hname, hcontent⟩, hentries⟩ := List.forall_mem_cons.mp h
        obtain ⟨r, hr, hrest, -⟩ := ih hentries
        obtain ⟨c, t, hline, hc, hbreak⟩ := exists_lineText hname hcontent
        refine ⟨c :: t ++ '\n' :: r, .line hline hr, by simp_all, ?_⟩
        have hmark : c.toNat ≠ 0xFEFF := by
          intro heq
          rw [← Char.ofNat_toNat c, heq] at hc
          exact absurd hc (by decide)
        simp [dropMark, hmark]
  refine ⟨String.ofList s, ?_⟩
  rw [String.toList_ofList, hmark, unifyBreaks_of_not_mem hbreak]
  exact hs

end EpisodeGuide.Toml
