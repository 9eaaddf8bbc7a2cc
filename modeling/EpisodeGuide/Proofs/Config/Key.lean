import EpisodeGuide.Proofs.Catalog.Visits
import EpisodeGuide.Proofs.History
import EpisodeGuide.Proofs.Session.Settings

/-! # The key that is used

A key comes from the file, from the environment and from later overrides. The last one that is not
blank is used, without the white space around it, and it is what every login posts. -/

namespace EpisodeGuide

open Http

/-- The last one of some keys that is not blank, each of which may be missing. -/
def IsLastUsable (keys : List (Option String)) (key : String) : Prop :=
  ∃ before after, keys = before ++ some key :: after ∧ Text.isBlank key = false ∧
    ∀ later, some later ∈ after → Text.isBlank later = true

namespace Config

/-- Settings whose key may have been replaced by any of `keys`, the key of the file in front. -/
structure KeySpec (file : Config) (keys : List (Option String)) (config : Config) : Prop where
  chosen : ∀ key, config.usableKey = some key ↔
    ∃ raw, IsLastUsable keys raw ∧ key = Text.trim raw
  absent : config.usableKey = none ↔ ∀ raw, some raw ∈ keys → Text.isBlank raw = true
  others : config = { file with apiKey := config.apiKey }
  handed : config.client.auth.apiKey = config.usableKey
  logins : ∀ {σ ι : Type} (channel : Channel σ ι) (surroundings : Surroundings)
    (disk disk' : Disk) (link : σ) (library : Library (Session σ)),
    Library.ofConfig config surroundings disk link = (.ok library, disk') →
    ∀ steps clock, ∀ v ∈ library.catalog.visits channel steps clock, ∀ e ∈ v.exchanges,
      e.request.method = .post → ∃ key, config.usableKey = some key ∧
        e.request = .postJson config.client.auth.loginUrl (.object [("apikey", .text key)])

/-! ### Overrides -/

/-- What is used of a key. -/
def usablePart (key : Option String) : Option String :=
  (Text.nonBlank? key).map Text.trim

theorem usablePart_eq_some_iff {key : Option String} {s : String} :
    usablePart key = some s ↔
      ∃ raw, (key = some raw ∧ Text.isBlank raw = false) ∧ s = Text.trim raw := by
  simp only [usablePart, Option.map_eq_some_iff, Text.nonBlank?_eq_some_iff, eq_comm (a := s)]

theorem usablePart_eq_none_iff {key : Option String} :
    usablePart key = none ↔ ∀ raw ∈ key, Text.isBlank raw = true := by
  rw [usablePart, Option.map_eq_none_iff, Text.nonBlank?_eq_none_iff]

/-- An override changes the key alone, unless it is blank. -/
theorem overrideApiKey_eq (key : Option String) (c : Config) :
    c.overrideApiKey key = { c with apiKey := (Text.nonBlank? key).or c.apiKey } := by
  rw [overrideApiKey]
  cases Text.nonBlank? key <;> rfl

theorem usableKey_overrideApiKey (key : Option String) (c : Config) :
    (c.overrideApiKey key).usableKey = (usablePart key).or c.usableKey := by
  rw [overrideApiKey_eq, usableKey, usablePart]
  cases hkey : Text.nonBlank? key with
  | none => rfl
  | some raw =>
      have hraw : Text.nonBlank? (some raw) = some raw := by
        rw [Text.nonBlank?_eq_some_iff] at hkey ⊢
        exact ⟨rfl, hkey.2⟩
      exact congrArg (Option.map Text.trim) hraw

/-- The key that is used after one more key has come. -/
def keepKey (held key : Option String) : Option String :=
  (usablePart key).or held

theorem keepKey_of_usable {key : Option String} {s : String} (h : usablePart key = some s)
    (held : Option String) : keepKey held key = some s := by
  rw [keepKey, h, Option.some_or]

theorem keepKey_of_unusable {key : Option String} (h : usablePart key = none)
    (held : Option String) : keepKey held key = held := by
  rw [keepKey, h, Option.none_or]

theorem usableKey_foldl (keys : List (Option String)) (c : Config) :
    (keys.foldl (fun c key => c.overrideApiKey key) c).usableKey =
      keys.foldl keepKey c.usableKey := by
  induction keys generalizing c with
  | nil => rfl
  | cons key keys ih => rw [List.foldl_cons, List.foldl_cons, ih, usableKey_overrideApiKey, keepKey]

theorem foldl_keepKey_eq_some_iff (keys : List (Option String)) (key : String) :
    keys.foldl keepKey none = some key ↔ ∃ raw, IsLastUsable keys raw ∧ key = Text.trim raw := by
  have hsets : ∀ k b, usablePart k = some b → ∀ held, keepKey held k = some b :=
    fun _ _ => keepKey_of_usable
  have hleaves : ∀ k, usablePart k = none → ∀ held, keepKey held k = held :=
    fun _ => keepKey_of_unusable
  have hclears : ∀ k, (∃ b, usablePart k = some b) ∨ usablePart k = none ∨
      ∀ held, keepKey held k = none := by
    intro k
    cases usablePart k <;> simp
  rw [History.foldl_eq_some_iff hsets hleaves hclears]
  constructor
  · rintro (⟨hheld, -⟩ | ⟨before, k, after, hkeys, hk, hafter⟩)
    · cases hheld
    · obtain ⟨raw, ⟨rfl, hraw⟩, hkey⟩ := usablePart_eq_some_iff.mp hk
      refine ⟨raw, ⟨before, after, hkeys, hraw, fun later hlater => ?_⟩, hkey⟩
      exact usablePart_eq_none_iff.mp (hafter _ hlater) later rfl
  · rintro ⟨raw, ⟨before, after, hkeys, hraw, hafter⟩, hkey⟩
    refine .inr ⟨before, some raw, after, hkeys, ?_, fun k hk => ?_⟩
    · exact usablePart_eq_some_iff.mpr ⟨raw, ⟨rfl, hraw⟩, hkey⟩
    · rw [usablePart_eq_none_iff]
      rintro later rfl
      exact hafter later hk

theorem foldl_keepKey_eq_none_iff (keys : List (Option String)) :
    keys.foldl keepKey none = none ↔ ∀ raw, some raw ∈ keys → Text.isBlank raw = true := by
  have hleaves : ∀ k, usablePart k = none → ∀ held, keepKey held k = held :=
    fun _ => keepKey_of_unusable
  constructor
  · intro hnone
    rcases History.eq_append_last (fun k => usablePart k ≠ none) keys with hblank | hlast
    · intro raw hraw
      exact usablePart_eq_none_iff.mp (not_not.mp (hblank _ hraw)) raw rfl
    · obtain ⟨before, k, after, hkeys, hk, hafter⟩ := hlast
      obtain ⟨key, hkey⟩ := Option.ne_none_iff_exists'.mp hk
      have hused : keys.foldl keepKey none = some key := by
        rw [hkeys, List.foldl_append, List.foldl_cons, keepKey_of_usable hkey]
        exact History.foldl_of_leaves hleaves (fun x hx => not_not.mp (hafter x hx)) _
      rw [hnone] at hused
      cases hused
  · intro hblank
    refine History.foldl_of_leaves hleaves (fun k hk => ?_) none
    rw [usablePart_eq_none_iff]
    rintro raw rfl
    exact hblank raw hk

theorem others_foldl (keys : List (Option String)) (c : Config) :
    keys.foldl (fun c key => c.overrideApiKey key) c =
      { c with apiKey := (keys.foldl (fun c key => c.overrideApiKey key) c).apiKey } := by
  induction keys generalizing c with
  | nil => rfl
  | cons key keys ih =>
      rw [List.foldl_cons, overrideApiKey_eq]
      exact ih _

/-! ### Logins -/

/-- A key that is used is not blank, so the client takes it as it is. -/
theorem apiKey_client (c : Config) : c.client.auth.apiKey = c.usableKey := by
  change Text.nonBlank? c.usableKey = c.usableKey
  cases husable : c.usableKey with
  | none => rfl
  | some key =>
      obtain ⟨raw, ⟨-, hraw⟩, rfl⟩ := usablePart_eq_some_iff.mp husable
      exact Text.nonBlank?_eq_some_iff.mpr ⟨rfl, Text.isBlank_trim hraw⟩

variable {config : Config} {σ ι : Type} {library : Library (Session σ)}

/-- The logins of a run post the key of the settings. -/
theorem forall_login (channel : Channel σ ι) {surroundings : Surroundings} {disk disk' : Disk}
    {link : σ} (h : Library.ofConfig config surroundings disk link = (.ok library, disk'))
    (steps : List (CatalogStep ι)) (clock : Int) :
    ∀ v ∈ library.catalog.visits channel steps clock, ∀ e ∈ v.exchanges,
      e.ByKeyOf config.client.auth := by
  have hsource : library.catalog.source.client = config.client :=
    congrArg Session.client (Library.source_of_ofConfig h)
  have hvisits := Catalog.forall_visits
    (P := fun client => client.auth.invalidate = config.client.auth.invalidate)
    (fun now series s hs => (s.fetch_invalidate_eq channel.send now series).trans hs) steps clock
    (congrArg (fun client => client.auth.invalidate) hsource)
  intro v hv e he
  obtain ⟨before, now, series, refresh, hbefore, rfl⟩ := hvisits v hv
  have hlookup : e ∈ before.lookupExchanges channel.send now series refresh := he
  rcases before.lookupExchanges_cases with hnone | hfetch
  · rw [hnone] at hlookup
    cases hlookup
  · rw [hfetch] at hlookup
    have hkey := Session.fetch_byKey channel.send now series { before.source with log := [] }
    exact (hkey e hlookup).of_invalidate_eq hbefore

theorem keySpec_foldl (file : Config) (keys : List (Option String)) :
    KeySpec file (file.apiKey :: keys)
      (keys.foldl (fun c key => c.overrideApiKey key) file) := by
  have husable : (keys.foldl (fun c key => c.overrideApiKey key) file).usableKey =
      (file.apiKey :: keys).foldl keepKey none := by
    rw [usableKey_foldl, List.foldl_cons, keepKey, Option.or_none]
    rfl
  refine ⟨fun key => ?_, ?_, others_foldl keys file, apiKey_client _, ?_⟩
  · rw [husable]
    exact foldl_keepKey_eq_some_iff _ key
  · rw [husable]
    exact foldl_keepKey_eq_none_iff _
  · intro σ ι channel surroundings disk disk' link library hopen steps clock v hv e he hpost
    obtain ⟨key, hkey, hrequest⟩ := forall_login channel hopen steps clock v hv e he hpost
    rw [apiKey_client] at hkey
    exact ⟨key, hkey, hrequest⟩

/-- The key of settings that load, with the environment and any number of overrides on top. -/
theorem loadFrom_keySpec (path : String) (value : Option (List UInt8)) (disk : Disk)
    (loaded : Config) (overrides : List (Option String))
    (h : loadFrom path (environmentKey value) disk = .ok loaded) :
    ∃ file, ofFile path disk = .ok file ∧
      KeySpec file (file.apiKey :: environmentKey value :: overrides)
        (overrides.foldl (fun c key => c.overrideApiKey key) loaded) := by
  rw [loadFrom] at h
  cases hfile : ofFile path disk with
  | error e =>
      rw [hfile] at h
      cases h
  | ok file =>
      rw [hfile] at h
      obtain rfl : file.overrideApiKey (environmentKey value) = loaded := Except.ok.inj h
      exact ⟨file, rfl, keySpec_foldl file (environmentKey value :: overrides)⟩

/-- A key in the file and one in the environment, which is not Unicode, and two overrides, the last
one blank. -/
theorem loadFrom_keySpec_blankOverride :
    let settings := "api_key = \"file\"\nmax_pages = 7\n".toUTF8.toList
    let disk : Disk :=
      (Files.Tree.ofWorkingDirectory ["home"]).put ["home", "config.toml"] (.file (.bytes settings))
    let loaded : Config := { default with apiKey := some "file", maxPages := 7 }
    let overrides := [some " late\t", some "\u2003"]
    let final := overrides.foldl (fun c key => c.overrideApiKey key) loaded
    loadFrom "config.toml" (environmentKey (some [0xff])) disk = .ok loaded ∧
      (∃ file, ofFile "config.toml" disk = .ok file ∧
        KeySpec file (file.apiKey :: environmentKey (some [0xff]) :: overrides) final) ∧
      final.usableKey = some "late" := by
  intro settings disk loaded overrides final
  have hload : loadFrom "config.toml" (environmentKey (some [0xff])) disk = .ok loaded := by
    decide +kernel
  exact ⟨hload, loadFrom_keySpec "config.toml" (some [0xff]) disk loaded overrides hload,
    by decide +kernel⟩

end Config

end EpisodeGuide
