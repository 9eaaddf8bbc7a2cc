import EpisodeGuide.Proofs.Url.Path

/-! # URLs that are read, part by part

A URL is read when its scheme is split off, its location can be read and its tail is coded. -/

namespace EpisodeGuide.Url

theorem exists_of_bind {α β : Type} {x : Except UrlError α} {f : α → Except UrlError β} {b : β}
    (h : x >>= f = .ok b) : ∃ a, x = .ok a ∧ f a = .ok b := by
  cases x with
  | error e => cases h
  | ok a => exact ⟨a, rfl, h⟩

/-- The location of a URL of a kind, from the text behind the scheme up to the query. -/
def readLocation (kind : Kind) (followed : Bool) (body : List Char) : Except UrlError Location :=
  match kind with
  | .file => readFile body
  | .special _ => readNetwork kind followed (body.dropWhile fun c => c == '/' || c == '\\')
  | .other => readOther followed body

theorem ofChars_of_splitScheme {s scheme rest : List Char}
    (h : splitScheme? (normalizeInput s) = some (scheme, rest)) :
    ofChars s =
      readLocation (Kind.ofScheme scheme)
        ((splitTail rest).2.1.isSome || (splitTail rest).2.2.isSome)
        (splitTail rest).1 >>= fun location => .ok {
          scheme := scheme
          location := location
          query := (splitTail rest).2.1.map
            (percentEncode (inQuerySet (Kind.ofScheme scheme).isSpecial))
          fragment := (splitTail rest).2.2.map (percentEncode inFragmentSet) } := by
  rw [ofChars, h]
  dsimp only
  cases Kind.ofScheme scheme <;> rfl

/-- A URL is read from a text exactly if its parts are. -/
theorem ofChars_eq_ok_iff {s : List Char} {u : Url} : ofChars s = .ok u ↔
    ∃ rest body query fragment, splitScheme? (normalizeInput s) = some (u.scheme, rest) ∧
      splitTail rest = (body, query, fragment) ∧
      readLocation u.kind (query.isSome || fragment.isSome) body = .ok u.location ∧
      u.query = query.map (percentEncode (inQuerySet u.kind.isSpecial)) ∧
      u.fragment = fragment.map (percentEncode inFragmentSet) := by
  constructor
  · intro h
    rcases hscheme : splitScheme? (normalizeInput s) with _ | ⟨scheme, rest⟩
    · simp [ofChars, hscheme] at h
    · rw [ofChars_of_splitScheme hscheme] at h
      obtain ⟨location, hlocation, hu⟩ := exists_of_bind h
      obtain rfl := Except.ok.inj hu
      exact ⟨rest, _, _, _, rfl, rfl, hlocation, rfl, rfl⟩
  · rintro ⟨rest, body, query, fragment, hscheme, htail, hlocation, hquery, hfragment⟩
    obtain ⟨scheme, location, _, _⟩ := u
    simp only at hscheme hlocation hquery hfragment
    rw [ofChars_of_splitScheme hscheme, htail]
    simp only [kind] at hlocation hquery ⊢
    rw [hlocation, hquery, hfragment]
    rfl

theorem location_of_readNetwork {kind : Kind} {followed : Bool} {s : List Char} {l : Location}
    (h : readNetwork kind followed s = .ok l) :
    ∃ a s', l = .hierarchical (some a) (readPath kind s') := by
  obtain ⟨⟨a, left⟩, -, hl⟩ := exists_of_bind h
  exact ⟨a, _, (Except.ok.inj hl).symm⟩

/-- A special URL that is read has an authority and a path. -/
theorem location_of_ofText {text : String} {u : Url} {port : Option ℕ} (h : ofText text = .ok u)
    (hkind : u.kind = .special port) :
    ∃ a s, u.location = .hierarchical (some a) (readPath (.special port) s) := by
  obtain ⟨_, _, _, _, -, -, hlocation, -⟩ := ofChars_eq_ok_iff.mp h
  rw [hkind] at hlocation
  exact location_of_readNetwork hlocation

end EpisodeGuide.Url
