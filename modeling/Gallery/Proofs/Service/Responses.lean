import Gallery.Proofs.Listing.Items
import Gallery.Service.Response

namespace Gallery
namespace Service

/-!
# Responses are read back

A response is written as one JSON record.  What it leaves out is the data of an error and
the seed of a page that has none; a tag without a display name says so by null.  Either is
read back as what is missing, so the data of a response are the page that was sent,
whatever its texts and numbers are.
-/

open Listing (Item Row Tag tagText)

/-! ## Pages -/

namespace Page

theorem proper_toJson (page : Page) : Json.Proper page.toJson := by
  apply Json.Proper.record
  have items := Json.Proper.list Item.proper_toJson page.items
  cases page.seed with
  | none => exact ⟨items, .integer _, .integer _, .integer _⟩
  | some seed => exact ⟨items, .integer _, .integer _, .integer _, .string _⟩

/-- A page is read back, with its seed or without. -/
theorem ofJson?_toJson (page : Page) : Page.ofJson? page.toJson = some page := by
  obtain ⟨items, total, number, limit, seed⟩ := page
  unfold Page.ofJson? Page.toJson
  cases seed with
  | none =>
      have distinct : ["items", "total", "page", "limit"].Nodup := by decide
      rw [Json.Record.ofJson?_record _ (by exact distinct)]
      simp [fields, Json.list?_list Item.ofJson?_toJson]
  | some seed =>
      have distinct : fields.Nodup := by decide
      rw [Json.Record.ofJson?_record _ (by exact distinct)]
      simp [fields, Json.list?_list Item.ofJson?_toJson, Json.option?]

/-- A page is written as a record that names the seed only if there is one. -/
theorem toJson_eq_record (page : Page) :
    ∃ members : List (String × Json), page.toJson = .record members ∧
      (members.map Prod.fst).Nodup ∧ ("seed" ∈ members.map Prod.fst ↔ page.seed.isSome) := by
  refine ⟨_, rfl, ?_⟩
  cases page.seed with
  | none =>
      have distinct : ["items", "total", "page", "limit"].Nodup := by decide
      exact ⟨distinct, by simp⟩
  | some seed =>
      have distinct : fields.Nodup := by decide
      exact ⟨distinct, by simp⟩

end Page

/-! ## Responses -/

namespace Response

section Texts

variable {α : Type} {encode : α → Json}

/-- The text of a response. -/
def text (encode : α → Json) (response : Response α) : List Char :=
  (response.toJson encode).toCompact.toList

theorem proper_toJson (proper : ∀ data, Json.Proper (encode data)) (response : Response α) :
    Json.Proper (response.toJson encode) := by
  apply Json.Proper.record
  cases response.data with
  | none => exact ⟨.integer _, .string _⟩
  | some data => exact ⟨.integer _, .string _, proper data⟩

theorem proper_error (encode : α → Json) (message : String) :
    Json.Proper ((error message : Response α).toJson encode) :=
  .record ⟨.integer _, .string _⟩

end Texts

/-- A page is sent as the data of a record. -/
theorem toJson_success {page : Page} {members : List (String × Json)}
    (written : page.toJson = .record members) :
    (success page).toJson Page.toJson = .record
      [("code", .integer 200), ("message", .string "success"), ("data", .record members)] := by
  rw [← written]
  rfl

end Response

/-- What is sent is one JSON record, and it is read back: a page with its seed if it has one, an
error with its message and without data.  So are the tags of a row, whichever text of them it
holds. -/
theorem sent_records_are_read_back :
    (∀ page : Page, ∃ members : List (String × Json),
      (Json.record [("code", .integer 200), ("message", .string "success"),
        ("data", .record members)]).IsText ((Response.success page).text Page.toJson) ∧
      Json.read? ((Response.success page).text Page.toJson) = some (.record
        [("code", .integer 200), ("message", .string "success"), ("data", .record members)]) ∧
      Page.ofJson? (.record members) = some page ∧
      (members.map Prod.fst).Nodup ∧ ("seed" ∈ members.map Prod.fst ↔ page.seed.isSome)) ∧
    (∀ (α : Type) (encode : α → Json) (message : String),
      (Json.record [("code", .integer 500), ("message", .string message)]).IsText
        ((Response.error message).text encode) ∧
      Json.read? ((Response.error message).text encode) =
        some (.record [("code", .integer 500), ("message", .string message)])) ∧
    ∀ tags : List Tag, (Json.list Tag.toJson tags).IsText (tagText tags).toList ∧
      ∀ row : Row, (Json.list Tag.toJson tags).IsText row.tags.toList →
        row.item? = some {
          id := row.id
          hash := row.hash
          title := row.title
          pages := row.pages
          thumbnail := row.thumbnail
          deleted := row.deleted
          tags := tags } := by
  refine ⟨fun page => ?_, fun α encode message => ?_, fun tags => ⟨?_, fun row isText => ?_⟩⟩
  · obtain ⟨members, written, distinct, seeded⟩ := page.toJson_eq_record
    have proper := Response.proper_toJson Page.proper_toJson (.success page)
    refine ⟨members, ?_, ?_, ?_, distinct, seeded⟩
    · rw [← Response.toJson_success written]
      exact Json.isText_toCompact proper
    · rw [← Response.toJson_success written]
      exact Json.read?_toCompact proper
    · rw [← written]
      exact page.ofJson?_toJson
  · have proper := Response.proper_error encode message
    exact ⟨Json.isText_toCompact proper, Json.read?_toCompact proper⟩
  · exact Listing.isText_tagText tags
  · rw [Row.item?, Listing.readTags?_of_isText isText]
    rfl

/-- A row whose tags an aggregate has written: with a blank behind the colon, an escaped letter and
a name in quotes. -/
def aggregatedRow : Row where
  id := 7
  hash := "c0ffee"
  title := "A title"
  pages := 12
  thumbnail := 1
  deleted := false
  tags := "[\x7b\"id\": -1,\"namespace\":\"\",\"name\":\"\\u00e9\"," ++
    "\"display_name\":\"\\\"e\\\"\"\x7d]"

/-- The tag of that row. -/
def aggregatedTag : Tag where
  id := -1
  scope := ""
  name := "é"
  displayName := some "\"e\""

theorem aggregatedRow_is_read :
    (Json.list Tag.toJson [aggregatedTag]).IsText aggregatedRow.tags.toList ∧
      aggregatedRow.item?.map Item.tags = some [aggregatedTag] := by
  have isText : (Json.list Tag.toJson [aggregatedTag]).IsText aggregatedRow.tags.toList :=
    Json.read?_eq_some_iff.mp (by rfl)
  refine ⟨isText, ?_⟩
  rw [(sent_records_are_read_back.2.2 [aggregatedTag]).2 aggregatedRow isText]
  rfl

end Service
end Gallery
