import Gallery.Json.Printer
import Gallery.Json.Record
import Gallery.Listing.Tag

namespace Gallery
namespace Service

/-!
# Responses

A response carries a code, a message and, when all went well, data.  Data that
is not there is left out, and so is the seed of a page that has none.
-/

/-- A response. -/
structure Response (α : Type) where
  code : Int
  message : String
  data : Option α
deriving DecidableEq, Repr

/-- A page of a listing. -/
structure Page where
  items : List Listing.Item
  total : UInt64
  page : UInt64
  limit : UInt64
  seed : Option String
deriving DecidableEq, Repr

namespace Response

/-- A response with data. -/
def success {α : Type} (data : α) : Response α where
  code := 200
  message := "success"
  data := some data

/-- A response that reports an error. -/
def error {α : Type} (message : String) : Response α where
  code := 500
  message := message
  data := none

/-- Writes a response. -/
def toJson {α : Type} (encode : α → Json) (response : Response α) : Json :=
  .record ([("code", .integer response.code), ("message", .string response.message)] ++
    (response.data.map fun data => ("data", encode data)).toList)

end Response

namespace Page

/-- The fields of a page in order. -/
def fields : List String :=
  ["items", "total", "page", "limit", "seed"]

/-- Writes a page. -/
def toJson (page : Page) : Json :=
  .record ([
    ("items", Json.list Listing.Item.toJson page.items),
    ("total", .uint64 page.total),
    ("page", .uint64 page.page),
    ("limit", .uint64 page.limit)] ++
    (page.seed.map fun seed => ("seed", .string seed)).toList)

/-- Reads a page. -/
def ofJson? (value : Json) : Option Page := do
  let record ← Json.Record.ofJson? fields value
  return {
    items := ← (record.field "items").required (Json.list? Listing.Item.ofJson?)
    total := ← (record.field "total").required Json.uint64?
    page := ← (record.field "page").required Json.uint64?
    limit := ← (record.field "limit").required Json.uint64?
    seed := ← (record.field "seed").optional Json.text? }

end Page

end Service
end Gallery
