import EpisodeGuide.Episode.Record
import EpisodeGuide.Proofs.Json.Printing

/-! # Episodes read back

The record of an episode describes that episode again, and the text of a listing that listing, in
whichever of the two layouts it is written. -/

namespace EpisodeGuide.Episode

open Json

theorem fitsNumeral_toNat (w : UInt32) : FitsNumeral w.toNat := by
  have h := w.toNat_lt
  constructor
  · omega
  · simp only [maxSignificand, UInt64.size]
    omega

/-- A number of an episode is written as an integer that is read as that number. -/
theorem readNumber?_numeral (w : UInt32) :
    readNumber? (.number (Number.numeral (.integer w.toNat))) = some w := by
  simp only [readNumber?, (numeral_integer (fitsNumeral_toNat w)).2]
  exact Word.unsigned32?_toNat w

theorem whole_toValue (e : Episode) : e.toValue.Whole := by
  refine .object ?_
  intro m hm
  simp only [List.mem_cons, List.not_mem_nil, or_false] at hm
  rcases hm with rfl | rfl | rfl | rfl | rfl
  · exact .text _
  · exact .integer (fitsNumeral_toNat e.season)
  · exact .integer (fitsNumeral_toNat e.number)
  · exact .text _
  · exact .text _

theorem whole_listValue (episodes : List Episode) : (listValue episodes).Whole := by
  refine .array ?_
  rw [List.forall_mem_map]
  exact fun e _ => whole_toValue e

/-- A printed member is put into the slot of its key. -/
theorem fillSlots_memberDocuments (names : List String) (k : String) (v : Value)
    (ms : List (String × Value)) (slots : List (Option Document)) :
    fillSlots names (Value.memberDocuments ((k, v) :: ms)) slots =
      (fillSlot k v.document names slots).bind
        (fillSlots names (Value.memberDocuments ms)) := by
  rw [Value.memberDocuments, fillSlots, text?_quoting]

theorem fillSlots_memberDocuments_nil (names : List String) (slots : List (Option Document)) :
    fillSlots names (Value.memberDocuments []) slots = some slots := rfl

/-- The record of an episode has its five fields, each under its name. -/
theorem fields?_document (e : Episode) :
    e.toValue.document.fields? fieldNames = some [
      some (.text (e.seriesId.toList.map .quoting)),
      some (.number (Number.numeral (.integer e.season.toNat))),
      some (.number (Number.numeral (.integer e.number.toNat))),
      some (.text (e.name.toList.map .quoting)),
      some (.text (e.airDate.toList.map .quoting))] := by
  simp [toValue, Value.document, Document.fields?, fillSlots_memberDocuments,
    fillSlots_memberDocuments_nil, fillSlot, fieldNames, List.replicate]

theorem ofDocument?_document (e : Episode) : ofDocument? e.toValue.document = some e := by
  simp [ofDocument?, fields?_document, Document.readText?, readNumber?_numeral]

theorem mapM_itemDocuments (episodes : List Episode) :
    (Value.itemDocuments (episodes.map toValue)).mapM ofDocument? = some episodes := by
  induction episodes with
  | nil => rfl
  | cons e episodes ih => simp [Value.itemDocuments, ofDocument?_document, ih]

/-- A text that spells the document of a listing describes that listing. -/
theorem listOfText?_of_document {s : String} {episodes : List Episode}
    (h : Document.ofText? s = some (listValue episodes).document) :
    listOfText? s = some episodes := by
  simp only [listOfText?, h, Option.bind_some]
  exact mapM_itemDocuments episodes

end EpisodeGuide.Episode
