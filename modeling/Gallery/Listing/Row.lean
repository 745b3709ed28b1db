import Gallery.Json.Printer
import Gallery.Json.Reader
import Gallery.Listing.Tag

namespace Gallery
namespace Listing

/-!
# Rows of items

A database hands out an item as a row in which the tags are one text, a JSON
array of records.  Such a row becomes an item when the text can be read.  Items
are put into the order of a list of ids: each id takes the last item with it, and
an id that comes again finds none left.
-/

/-- A row of an item. -/
structure Row where
  id : Int64
  hash : String
  title : String
  pages : Int64
  thumbnail : Int64
  deleted : Bool
  tags : String
deriving DecidableEq, Repr

/-- The text of a list of tags. -/
def tagText (tags : List Tag) : String :=
  (Json.list Tag.toJson tags).toCompact

/-- Reads the text of a list of tags. -/
def readTags? (text : String) : Option (List Tag) :=
  (Json.read? text.toList).bind (Json.list? Tag.ofJson?)

/-- The item of a row, or none when the text of its tags is malformed. -/
def Row.item? (row : Row) : Option Item :=
  (readTags? row.tags).map fun tags => {
    id := row.id
    hash := row.hash
    title := row.title
    pages := row.pages
    thumbnail := row.thumbnail
    deleted := row.deleted
    tags := tags }

/-- The last item with the given id. -/
def lastWithId (items : List Item) (id : Int64) : Option Item :=
  (items.filter fun item => item.id = id).getLast?

/-- Puts items into the order of the given ids. -/
def restoreOrder : List Item → List Int64 → List Item
  | _, [] => []
  | items, id :: order =>
      match lastWithId items id with
      | some item => item :: restoreOrder (items.filter fun other => other.id ≠ id) order
      | none => restoreOrder items order

end Listing
end Gallery
