import EpisodeGuide.Json.Fields
import EpisodeGuide.Provider.Entry

/-!
Pages of a listing: the entries as they came, and the link to the next page. Entries are kept as
values so that one odd entry never costs the page.
-/

namespace EpisodeGuide.Provider

open Json

structure Page where
  entries : List Value
  next : Option Value

namespace Page

/-- The nesting above an entry: the page, its data and the list of entries. -/
def entryLevel : Nat := 3

/-- The nesting above the next link: the page and its links. -/
def linkLevel : Nat := 2

def readItems? (d : Document) : Option (List Value) :=
  d.items?.bind (itemValues? (maxDepth - entryLevel))

def readEntries? (d : Document) : Option (Option (List Value)) :=
  match d.fields? ["episodes"] with
  | some [episodes] => optional? readItems? episodes
  | _ => none

def readNext? (d : Document) : Option (Option Value) :=
  match d.fields? ["next"] with
  | some [next] => optional? (Document.value? (maxDepth - linkLevel)) next
  | _ => none

def ofDocument? (d : Document) : Option Page :=
  match d.fields? ["data", "links"] with
  | some [data, links] => do
    let entries ← optional? readEntries? data
    let next ← optional? readNext? links
    return ⟨entries.join.getD [], next.join⟩
  | _ => none

def ofText? (s : String) : Option Page :=
  (Document.ofText? s).bind ofDocument?

/-- Whether a link leads anywhere: false, zero, and empty texts, arrays and objects lead nowhere. -/
def truthy : Value → Bool
  | .null => false
  | .bool b => b
  | .number (.integer i) => i != 0
  | .number (.real x) => !x.isZero
  | .text s => !s.isEmpty
  | .array items => !items.isEmpty
  | .object members => !members.isEmpty

def hasNext (p : Page) : Bool :=
  p.next.any truthy

def usableEntries (p : Page) : List Entry :=
  p.entries.filterMap Entry.ofValue?

def episodes (seriesId : String) (p : Page) : List Episode :=
  p.usableEntries.map (Entry.toEpisode seriesId)

end Page

end EpisodeGuide.Provider
