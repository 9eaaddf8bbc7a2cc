import EpisodeGuide.Json.Value

/-!
Records in JSON: an object with a member for each field in any order, or an array of the fields in
their fixed order. Members with other keys are passed over whatever they hold; a field that comes
twice is refused.
-/

namespace EpisodeGuide.Json

/-- Puts `d` into the slot of the field called `key`, if there is such a field and its slot is
empty. -/
def fillSlot (key : String) (d : Document) :
    List String → List (Option Document) → Option (List (Option Document))
  | name :: names, slot :: slots =>
    if name = key then if slot.isSome then none else some (some d :: slots)
    else (fillSlot key d names slots).map (slot :: ·)
  | _, slots => some slots

def fillSlots (names : List String) :
    List (List Piece × Document) → List (Option Document) → Option (List (Option Document))
  | [], slots => some slots
  | (k, d) :: ms, slots =>
    match Piece.text? k with
    | none => none
    | some key => (fillSlot key d names slots).bind (fillSlots names ms)

/-- The fields of a record, one slot for each name; a slot stays empty for a missing member. -/
def Document.fields? (names : List String) : Document → Option (List (Option Document))
  | .array items => if items.length = names.length then some (items.map some) else none
  | .object members => fillSlots names members (List.replicate names.length none)
  | _ => none

/-- A field that may be missing or null. -/
def optional? {α : Type} (read : Document → Option α) : Option Document → Option (Option α)
  | none => some none
  | some .null => some none
  | some d => (read d).map some

def Document.readText? : Document → Option String
  | .text ps => Piece.text? ps
  | _ => none

def Document.items? : Document → Option (List Document)
  | .array items => some items
  | _ => none

end EpisodeGuide.Json
