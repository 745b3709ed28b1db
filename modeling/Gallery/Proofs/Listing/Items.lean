import Gallery.Listing.Row
import Gallery.Proofs.Json.Compact
import Gallery.Proofs.Json.Records

namespace Gallery
namespace Listing

/-!
# Tags and items as text

Tags and items are records, and each is read back from the record that is written for it.
The tags of a row are a text that some database wrote: it need not be the text that would
be written here, but every text of a list of tags is read as that list.
-/

theorem Tag.proper_toJson (tag : Tag) : Json.Proper tag.toJson := by
  apply Json.Proper.record
  exact ⟨.integer _, .string _, .string _, Json.Proper.option .string _⟩

theorem Item.proper_toJson (item : Item) : Json.Proper item.toJson := by
  apply Json.Proper.record
  exact ⟨.integer _, .string _, .string _, .integer _, .integer _, .bool _,
    Json.Proper.list Tag.proper_toJson item.tags⟩

theorem Tag.ofJson?_toJson (tag : Tag) : Tag.ofJson? tag.toJson = some tag := by
  have distinct : fields.Nodup := by decide
  unfold Tag.ofJson? Tag.toJson
  rw [Json.Record.ofJson?_record _ (by exact distinct)]
  simp [fields]

theorem Item.ofJson?_toJson (item : Item) : Item.ofJson? item.toJson = some item := by
  have distinct : fields.Nodup := by decide
  unfold Item.ofJson? Item.toJson
  rw [Json.Record.ofJson?_record _ (by exact distinct)]
  simp [fields, Json.list?_list Tag.ofJson?_toJson]

/-- Every text of a list of tags is read as that list. -/
theorem readTags?_of_isText {tags : List Tag} {text : String}
    (isText : (Json.list Tag.toJson tags).IsText text.toList) : readTags? text = some tags := by
  rw [readTags?, Json.read?_eq_some_iff.mpr isText, Option.bind_some]
  exact Json.list?_list Tag.ofJson?_toJson tags

theorem isText_tagText (tags : List Tag) :
    (Json.list Tag.toJson tags).IsText (tagText tags).toList :=
  Json.isText_toCompact (.list Tag.proper_toJson tags)

/-- A list of tags is read back from its text. -/
theorem readTags?_tagText (tags : List Tag) : readTags? (tagText tags) = some tags :=
  readTags?_of_isText (isText_tagText tags)

end Listing
end Gallery
