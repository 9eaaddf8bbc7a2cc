import EpisodeGuide.Provider.Page

/-! # Usable entries

Which of a page's raw entries become episodes: objects, whatever their members hold, and short
arrays. A page has episodes exactly when one of its entries is usable. -/

namespace EpisodeGuide.Provider

open Json

/-- An entry that becomes an episode: an object, or an array with an item for each of the first
few fields. -/
def Usable (v : Value) : Prop :=
  (∃ members, v = .object members) ∨ ∃ items, v = .array items ∧ items.length ≤ 4

theorem Entry.ofValue?_eq_none_iff (v : Value) : Entry.ofValue? v = none ↔ ¬ Usable v := by
  cases v with
  | object members => simp [Entry.ofValue?, Usable]
  | array items => simp [Entry.ofValue?, Usable, Entry.fieldNames]
  | null | bool | number | text => simp [Entry.ofValue?, Usable]

namespace Page

theorem usableEntries_eq_nil_iff (p : Page) :
    p.usableEntries = [] ↔ ∀ v ∈ p.entries, ¬ Usable v := by
  simp only [usableEntries, List.filterMap_eq_nil_iff, Entry.ofValue?_eq_none_iff]

theorem usableEntries_ne_nil_iff (p : Page) :
    p.usableEntries ≠ [] ↔ ∃ v ∈ p.entries, Usable v := by
  rw [ne_eq, usableEntries_eq_nil_iff]
  simp

/-- A link that is a text leads on unless it is empty. -/
theorem hasNext_of_text {p : Page} {url : String} (h : p.next = some (.text url)) (hne : url ≠ "") :
    p.hasNext = true := by
  simp [hasNext, h, truthy, hne]

end Page

end EpisodeGuide.Provider
