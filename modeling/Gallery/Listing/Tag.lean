import Gallery.Json.Record

namespace Gallery
namespace Listing

/-!
# Tags and items of a listing

An item is what a listing shows of an archive, with its tags.  Tags and items
are written as JSON records and read back from them; only the display name of a
tag may be left out.
-/

/-- A tag as it is shown. -/
structure Tag where
  id : Int64
  scope : String
  name : String
  displayName : Option String := none
deriving DecidableEq, Repr

/-- What a listing shows of an archive. -/
structure Item where
  id : Int64
  hash : String
  title : String
  pages : Int64
  thumbnail : Int64
  deleted : Bool
  tags : List Tag
deriving DecidableEq, Repr

namespace Tag

/-- The fields of a tag in order. -/
def fields : List String :=
  ["id", "namespace", "name", "display_name"]

/-- Writes a tag. -/
def toJson (tag : Tag) : Json :=
  .record [
    ("id", .int64 tag.id),
    ("namespace", .string tag.scope),
    ("name", .string tag.name),
    ("display_name", Json.option .string tag.displayName)]

/-- Reads a tag. -/
def ofJson? (value : Json) : Option Tag := do
  let record ← Json.Record.ofJson? fields value
  return {
    id := ← (record.field "id").required Json.int64?
    scope := ← (record.field "namespace").required Json.text?
    name := ← (record.field "name").required Json.text?
    displayName := ← (record.field "display_name").withDefault none (Json.option? Json.text?) }

end Tag

namespace Item

/-- The fields of an item in order. -/
def fields : List String :=
  ["id", "hash", "title", "pages", "thumbnail", "deleted", "tags"]

/-- Writes an item. -/
def toJson (item : Item) : Json :=
  .record [
    ("id", .int64 item.id),
    ("hash", .string item.hash),
    ("title", .string item.title),
    ("pages", .int64 item.pages),
    ("thumbnail", .int64 item.thumbnail),
    ("deleted", .bool item.deleted),
    ("tags", Json.list Tag.toJson item.tags)]

/-- Reads an item. -/
def ofJson? (value : Json) : Option Item := do
  let record ← Json.Record.ofJson? fields value
  return {
    id := ← (record.field "id").required Json.int64?
    hash := ← (record.field "hash").required Json.text?
    title := ← (record.field "title").required Json.text?
    pages := ← (record.field "pages").required Json.int64?
    thumbnail := ← (record.field "thumbnail").required Json.int64?
    deleted := ← (record.field "deleted").required Json.bool?
    tags := ← (record.field "tags").required (Json.list? Tag.ofJson?) }

end Item

end Listing
end Gallery
