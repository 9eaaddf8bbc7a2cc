import EpisodeGuide.Config.Load
import EpisodeGuide.Proofs.Toml.Document
import Mathlib.Data.List.Nodup

/-! # Files with some of the settings

A file that names some settings yields their values and the defaults of the others, in whatever
order its lines stand and whatever else it names. A value outside the range of its setting, or of
another type, makes the whole file fail, and so may other lines beyond the limits of the reader. -/

namespace EpisodeGuide.Config

open Toml

/-! ### Values for some of the settings -/

/-- Values for some of the settings. Integers of TOML have 64 bits with a sign. -/
structure Assignment where
  apiKey : Option String
  baseUrl : Option String
  databasePath : Option String
  maxPages : Option UInt32
  timeoutSeconds : Option UInt64
  timeoutSeconds_lt : ∀ n ∈ timeoutSeconds, n.toNat < 2 ^ 63

/-- The settings with these values, and the defaults for the others. -/
def Assignment.config (a : Assignment) : Config where
  apiKey := a.apiKey.or default.apiKey
  baseUrl := a.baseUrl.getD default.baseUrl
  databasePath := a.databasePath.or default.databasePath
  maxPages := a.maxPages.getD default.maxPages
  timeoutSeconds := a.timeoutSeconds.getD default.timeoutSeconds

/-- The settings by their names, each with its value if it has one. -/
def Assignment.values (a : Assignment) : List (String × Option Toml.Content) :=
  [("api_key", a.apiKey.map .text),
    ("base_url", a.baseUrl.map .text),
    ("database_path", a.databasePath.map .text),
    ("max_pages", a.maxPages.map fun n => .integer n.toNat),
    ("request_timeout_secs", a.timeoutSeconds.map fun n => .integer n.toNat)]

def Assignment.entries (a : Assignment) : List Entry :=
  a.values.filterMap fun (name, content) => content.map (.single name)

def settingNames : List String :=
  ["api_key", "base_url", "database_path", "max_pages", "request_timeout_secs"]

/-- An entry that names no setting. -/
def Unknown (e : Entry) : Prop :=
  firstPart e.key ∉ settingNames

/-- A content that a setting cannot have. -/
inductive Unfit : String → Toml.Content → Prop where
  | text {name content} : name ∈ ["api_key", "base_url", "database_path"] →
      (∀ s, content ≠ .text s) → Unfit name content
  | integer {name bound content} :
      (name, bound) ∈ [("max_pages", 2 ^ 32), ("request_timeout_secs", 2 ^ 63)] →
      (∀ n : ℕ, n < bound → content ≠ .integer n) → Unfit name content

/-- A file that holds a text. -/
def FileHolds (disk : Disk) (path text : String) : Prop :=
  disk.readFile path = .ok (.bytes text.toUTF8.data.toList)

/-- A text that spells some entries, each on a line of its own, under keys that are apart. -/
structure Lists (limited : Prop) (text : String) (entries : List Entry) : Prop where
  document : Document limited (unifyBreaks (dropMark text.toList)) entries
  apart : entries.Pairwise fun e e' => Apart e.key e'.key

/-- What a way of loading makes of files with some of the settings. -/
structure PartialSpec (load : String → Disk → Except ConfigError Config) : Prop where
  /-- Every assignment can be written, in every order. -/
  written : ∀ (a : Assignment) (entries : List Entry), entries.Perm a.entries →
    ∃ text, Lists True text entries
  /-- Other lines within the limits change nothing. -/
  loads : ∀ (a : Assignment) (others entries : List Entry) (text path : String) (disk : Disk),
    entries.Perm (a.entries ++ others) → (∀ e ∈ others, Unknown e) → Lists True text entries →
    FileHolds disk path text → load path disk = .ok a.config
  /-- Nor do other lines beyond them, unless they make the file fail. -/
  beyond : ∀ (a : Assignment) (others entries : List Entry) (text path : String) (disk : Disk),
    entries.Perm (a.entries ++ others) → (∀ e ∈ others, Unknown e) → Lists False text entries →
    FileHolds disk path text →
    load path disk = .ok a.config ∨ load path disk = .error (.parseFailed path none)
  rejects : ∀ (entries : List Entry) (name : String) (content : Toml.Content) (text path : String)
    (disk : Disk), .single name content ∈ entries → Unfit name content → Lists False text entries →
    FileHolds disk path text → load path disk = .error (.parseFailed path none)

variable {α : Type} {name text path : String} {content : Toml.Content} {entries : List Entry}
  {disk : Disk} {ms : Members} {n : Node} {limited : Prop}

/-! ### The file -/

theorem existsAt_of_readFile {t : Files.Tree α} {x : α} (h : t.readFile path = .ok x) :
    t.existsAt path = true := by
  rw [Files.Tree.readFile] at h
  rw [Files.Tree.existsAt]
  cases hplace : t.locate path with
  | error e => rw [hplace] at h; cases h
  | ok place =>
      rw [hplace] at h
      cases hnode : t.node? place with
      | none => simp [hnode, bind, Except.bind, throw, throwThe, MonadExceptOf.throw] at h
      | some node => simp [hnode]

theorem ofFile_of_fileHolds (h : FileHolds disk path text) :
    ofFile path disk = match ofText? text with
      | some config => .ok config
      | none => .error (.parseFailed path none) := by
  have hutf8 : String.fromUTF8? ⟨text.toUTF8.data.toList.toArray⟩ = some text := by
    simp only [String.fromUTF8?, Array.toArray_toList, String.toUTF8_eq_toByteArray,
      dif_pos text.isValidUTF8]
    rfl
  have hread : readFile path disk = .ok text := by
    rw [FileHolds] at h
    simp only [readFile, h, bind, Except.bind, fileBytes, hutf8, pure, Except.pure]
  cases htext : ofText? text <;> simp [ofFile, existsAt_of_readFile h, hread, htext]

/-- Without a key in the environment, a file is loaded as its text. -/
theorem loadFrom_of_fileHolds (h : FileHolds disk path text) :
    loadFrom path (environmentKey none) disk = match ofText? text with
      | some config => .ok config
      | none => .error (.parseFailed path none) := by
  rw [loadFrom, ofFile_of_fileHolds h]
  cases ofText? text <;> rfl

/-! ### One setting -/

theorem readText_of_holds (h : n.Holds content) : readText n = content.text? := by
  obtain ⟨rfl, -⟩ := h
  cases n <;> rfl

theorem readInteger_of_holds (h : n.Holds content) : readInteger n = content.integer? := by
  obtain ⟨rfl, -⟩ := h
  cases n <;> rfl

theorem setting?_eq_none (read : Node → Option α) (hget : ms.get? name = some n)
    (hread : read n = none) : setting? read name ms = none := by
  simp [setting?, hget, hread]

/-! ### All settings -/

/-- One content that a setting cannot have makes all settings fail. -/
theorem ofMembers?_of_unfit (h : Unfit name content) (hget : ms.get? name = some n)
    (hn : n.Holds content) : ofMembers? ms = none := by
  cases h with
  | text hname hcontent =>
      have hread : readText n = none := by
        rw [readText_of_holds hn]
        cases content with
        | text s => exact (hcontent s rfl).elim
        | integer | other => rfl
      have hnone := setting?_eq_none readText hget hread
      simp only [List.mem_cons, List.not_mem_nil, or_false] at hname
      rcases hname with rfl | rfl | rfl <;> simp [ofMembers?, hnone]
  | integer hname hcontent =>
      rename_i bound
      have hinteger {i : ℤ} (hi : readInteger n = some i) :
          Word.fitsSigned64 i = true ∧ ¬ (0 ≤ i ∧ i < bound) := by
        rw [readInteger_of_holds hn] at hi
        cases content with
        | text | other => cases hi
        | integer j =>
            obtain rfl := Option.some.inj hi
            refine ⟨hn.held, fun ⟨hpos, hlt⟩ => hcontent j.toNat (by omega) ?_⟩
            rw [Int.toNat_of_nonneg hpos]
      simp only [List.mem_cons, Prod.mk.injEq, List.not_mem_nil, or_false] at hname
      rcases hname with ⟨rfl, rfl⟩ | ⟨rfl, rfl⟩
      · have hread : (readInteger n).bind Word.unsigned32? = none := by
          cases hi : readInteger n with
          | none => rfl
          | some i =>
              have := (hinteger hi).2
              simp only [Option.bind_some, Word.unsigned32?, UInt32.size]
              rw [if_neg (by omega)]
        have hnone := setting?_eq_none (fun n => (readInteger n).bind Word.unsigned32?)
          hget hread
        simp [ofMembers?, hnone]
      · have hread : (readInteger n).bind Word.unsigned64? = none := by
          cases hi : readInteger n with
          | none => rfl
          | some i =>
              obtain ⟨hheld, hrange⟩ := hinteger hi
              simp only [Word.fitsSigned64, Bool.and_eq_true, decide_eq_true_eq] at hheld
              simp only [Option.bind_some, Word.unsigned64?, UInt64.size]
              rw [if_neg (by omega)]
        have hnone := setting?_eq_none (fun n => (readInteger n).bind Word.unsigned64?)
          hget hread
        simp [ofMembers?, hnone]

section

variable {a : Assignment} {others : List Entry}

theorem Assignment.mem_entries {e : Entry} :
    e ∈ a.entries ↔ ∃ name content, (name, some content) ∈ a.values ∧ e = .single name content := by
  simp only [entries, List.mem_filterMap, Prod.exists, Option.map_eq_some_iff]
  constructor
  · rintro ⟨name, _, hmem, content, rfl, rfl⟩
    exact ⟨name, content, hmem, rfl⟩
  · rintro ⟨name, content, hmem, rfl⟩
    exact ⟨name, _, hmem, content, rfl, rfl⟩

theorem Assignment.values_unique {value value' : Option Toml.Content} (h : (name, value) ∈ a.values)
    (h' : (name, value') ∈ a.values) : value = value' := by
  have hnodup : (a.values.map Prod.fst).Nodup := (by decide : settingNames.Nodup)
  exact (Prod.mk.inj (List.inj_on_of_nodup_map hnodup h h' rfl)).2

/-- A setting is read where the file names it, and left out where it does not. -/
theorem setting?_of_added (read : Node → Option α) (write : α → Toml.Content) {value : Option α}
    (h : Added entries [] ms) (hentries : entries.Perm (a.entries ++ others))
    (hothers : ∀ e ∈ others, Unknown e) (hvalue : (name, value.map write) ∈ a.values)
    (hread : ∀ x ∈ value, ∀ n : Node, n.Holds (write x) → read n = some x) :
    setting? read name ms = some value := by
  cases value with
  | some x =>
      have hmem : .single name (write x) ∈ entries :=
        hentries.mem_iff.mpr (List.mem_append_left _
          (Assignment.mem_entries.mpr ⟨_, _, hvalue, rfl⟩))
      obtain ⟨n, hget, hn⟩ := h.found name (write x) hmem
      simp only [setting?, hget, hread x rfl n hn, Option.map_some]
  | none =>
      have hname : name ∈ settingNames := List.mem_map_of_mem (f := Prod.fst) hvalue
      have hget : ms.get? name = none := h.others name fun e he hfirst => by
        rcases List.mem_append.mp (hentries.mem_iff.mp he) with he | he
        · obtain ⟨name', content, hvalue', rfl⟩ := Assignment.mem_entries.mp he
          obtain rfl : name' = name := hfirst
          cases Assignment.values_unique hvalue hvalue'
        · exact hothers e he (hfirst ▸ hname)
      rw [setting?, hget]

/-- The values that a file names are read, and the defaults of the others. -/
theorem ofMembers?_of_added (h : Added entries [] ms)
    (hentries : entries.Perm (a.entries ++ others)) (hothers : ∀ e ∈ others, Unknown e) :
    ofMembers? ms = some a.config := by
  have htext (name : String) (value : Option String) (hvalue : (name, value.map .text) ∈ a.values) :
      setting? readText name ms = some value :=
    setting?_of_added readText .text h hentries hothers hvalue
      fun s _ n hn => readText_of_holds hn
  have hpages : setting? (fun n => (readInteger n).bind Word.unsigned32?) "max_pages" ms =
      some a.maxPages :=
    setting?_of_added _ (fun w => .integer w.toNat) h hentries hothers
      (by simp [Assignment.values]) fun w _ n hn => by
      rw [readInteger_of_holds hn, Content.integer?, Option.bind_some, Word.unsigned32?_toNat]
  have htimeout : setting? (fun n => (readInteger n).bind Word.unsigned64?)
      "request_timeout_secs" ms = some a.timeoutSeconds :=
    setting?_of_added _ (fun w => .integer w.toNat) h hentries hothers
      (by simp [Assignment.values]) fun w _ n hn => by
      rw [readInteger_of_holds hn, Content.integer?, Option.bind_some, Word.unsigned64?_toNat]
  have hkey := htext "api_key" a.apiKey (by simp [Assignment.values])
  have hurl := htext "base_url" a.baseUrl (by simp [Assignment.values])
  have hpath := htext "database_path" a.databasePath (by simp [Assignment.values])
  simp [ofMembers?, hkey, hurl, hpath, hpages, htimeout, Assignment.config, default]

example : ofText? "x.y = [1, \x7bz = 0\x7d]\nmax_pages = 0x10\nbase_url = \"\\u0041\"\n" =
    some { default with baseUrl := "A", maxPages := 16 } := by
  decide +kernel

theorem writable_of_mem_entries {e : Entry} (h : e ∈ a.entries) :
    ∃ name content, e = .single name content ∧ IsBareName name ∧ Writable content := by
  obtain ⟨name, content, hvalue, rfl⟩ := Assignment.mem_entries.mp h
  have hname : name ∈ settingNames := List.mem_map_of_mem (f := Prod.fst) hvalue
  have hbare : ∀ name ∈ settingNames, IsBareName name := by decide
  refine ⟨name, content, rfl, hbare name hname, ?_⟩
  simp only [Assignment.values, List.mem_cons, Prod.mk.injEq, List.not_mem_nil, or_false] at hvalue
  rcases hvalue with ⟨-, h⟩ | ⟨-, h⟩ | ⟨-, h⟩ | ⟨-, h⟩ | ⟨-, h⟩ <;>
    obtain ⟨x, hx, rfl⟩ := Option.map_eq_some_iff.mp h.symm
  · exact .text x
  · exact .text x
  · exact .text x
  · exact .integer (by have := x.toNat_lt; omega)
  · exact .integer (a.timeoutSeconds_lt x hx)

theorem pairwise_entries (a : Assignment) :
    a.entries.Pairwise fun e e' => Apart e.key e'.key := by
  have hnodup : (a.values.map Prod.fst).Nodup := (by decide : settingNames.Nodup)
  rw [Assignment.entries, List.pairwise_filterMap]
  refine (List.pairwise_map.mp hnodup).imp fun hne e he e' he' => ?_
  obtain ⟨content, -, rfl⟩ := Option.map_eq_some_iff.mp he
  obtain ⟨content', -, rfl⟩ := Option.map_eq_some_iff.mp he'
  exact apart_single_iff.mpr hne

end

/-! ### Loading -/

theorem loadFrom_of_assignment {a : Assignment} {others : List Entry}
    (hentries : entries.Perm (a.entries ++ others)) (hothers : ∀ e ∈ others, Unknown e)
    (htext : Lists limited text entries) (hfile : FileHolds disk path text) :
    loadFrom path (environmentKey none) disk = .ok a.config ∨
      ¬ limited ∧ loadFrom path (environmentKey none) disk = .error (.parseFailed path none) := by
  rw [loadFrom_of_fileHolds hfile, ofText?]
  rcases membersOfText?_document htext.document htext.apart with
    ⟨ms, hread, hadded⟩ | ⟨hbeyond, hread⟩
  · have hconfig := ofMembers?_of_added hadded hentries hothers
    exact .inl (by simp [hread, hconfig])
  · exact .inr ⟨hbeyond, by simp [hread]⟩

/-- A file is loaded as the values that it names, with the defaults of the others. -/
theorem loadFrom_partialSpec :
    PartialSpec fun path disk => loadFrom path (environmentKey none) disk where
  written a entries hentries := by
    have hwritable : ∀ e ∈ entries, ∃ name content, e = .single name content ∧
        IsBareName name ∧ Writable content :=
      fun e he => writable_of_mem_entries (hentries.mem_iff.mp he)
    obtain ⟨text, htext⟩ := exists_document hwritable
    exact ⟨text, htext, hentries.symm.pairwise (pairwise_entries a) fun h => h.symm⟩
  loads a others entries text path disk hentries hothers htext hfile := by
    rcases loadFrom_of_assignment hentries hothers htext hfile with hok | ⟨hbeyond, -⟩
    · exact hok
    · exact (hbeyond trivial).elim
  beyond a others entries text path disk hentries hothers htext hfile :=
    (loadFrom_of_assignment hentries hothers htext hfile).imp_right And.right
  rejects entries name content text path disk hmem hunfit htext hfile := by
    rw [loadFrom_of_fileHolds hfile, ofText?]
    rcases membersOfText?_document htext.document htext.apart with
      ⟨ms, hread, hadded⟩ | ⟨-, hread⟩
    · obtain ⟨n, hget, hn⟩ := hadded.found name content hmem
      simp [hread, ofMembers?_of_unfit hunfit hget hn]
    · simp [hread]

/-! ### Beyond the limits -/

theorem spells_nested (depth room : ℕ) :
    Spells False (List.replicate (depth + 1) '[' ++ List.replicate (depth + 1) ']')
      (.value room .other) := by
  induction depth generalizing room with
  | zero => exact .array nofun (.noItem .nil)
  | succ depth ih =>
      have hitems := Spells.lastItem .nil (ih (room - 1)) .nil
      have harray : Spells False _ (.value room .other) := .array nofun hitems
      rw [List.replicate_succ, List.replicate_succ' (n := depth + 1)]
      simpa using harray

/-- A line with 80 arrays within each other makes a file fail that is well formed otherwise. -/
theorem loadFrom_deepArray :
    let a : Assignment := ⟨none, none, none, some 5, none, by simp⟩
    let others := [Entry.single "x" .other]
    let value := List.replicate 80 '[' ++ List.replicate 80 ']'
    let text := String.ofList ("max_pages = 5\nx = ".toList ++ (value ++ ['\n']))
    let disk : Disk := (Files.Tree.ofWorkingDirectory ["home"]).put ["home", "config.toml"]
      (.file (.bytes text.toUTF8.data.toList))
    Lists False text (a.entries ++ others) ∧ (∀ e ∈ others, Unknown e) ∧
      FileHolds disk "config.toml" text ∧
      loadFrom "config.toml" (environmentKey none) disk =
        .error (.parseFailed "config.toml" none) := by
  intro a others value text disk
  have hfile : FileHolds disk "config.toml" text := rfl
  have hnone : ofText? text = none := by decide +kernel
  have hnames : IsBareName "max_pages" ∧ IsBareName "x" := by decide
  have hfive : IntegerText ['5'] 5 := .decimal .none (.run (.start (d := 5) rfl .nil) (by decide))
  have hpages : LineText False "max_pages = 5".toList (.single "max_pages" (.integer 5)) :=
    .of_name hnames.1 (.integer hfive False.elim)
  have hdeep : LineText False ("x = ".toList ++ value) (.single "x" .other) :=
    .of_name hnames.2 (spells_nested 79 _)
  have hlines : unifyBreaks (dropMark text.toList) =
      "max_pages = 5".toList ++ '\n' :: ("x = ".toList ++ value ++ '\n' :: []) := by decide +kernel
  refine ⟨⟨?_, ?_⟩, ?_, hfile, ?_⟩
  · rw [hlines]
    exact .line hpages (.line hdeep .nil)
  · exact List.pairwise_pair.mpr (apart_single_iff.mpr (by decide))
  · simp [others, Unknown, firstPart, Entry.single, settingNames]
  · rw [loadFrom_of_fileHolds hfile, hnone]

end EpisodeGuide.Config
