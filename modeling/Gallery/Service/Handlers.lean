import Gallery.Search.Engine
import Gallery.Service.Response

namespace Gallery
namespace Service

/-!
# Handlers

The listing answers the parameters of an address with a page of items, and the
items handler answers a list of ids.  Neither shows deleted archives.  A random
listing without a seed is given a fresh one, which the page names, so that its
other pages can be asked for.
-/

open Search (Engine Request)

/-- What the listing says when the search fails. -/
def searchFailed : String := "搜索失败"

/-- What a handler says when items cannot be loaded. -/
def loadFailed : String := "加载条目失败"

/-- The request of parameters, with a seed if it is random. -/
def seededRequest (params : List (String × String)) (site : Config.Site) (freshSeed : String) :
    Request :=
  let request := Request.ofParams params site
  if request.key = .random && request.seed.isNone then { request with seed := some freshSeed }
  else request

/-- Answers the parameters of an address with a page of the listing. -/
def library (engine : Engine) (params : List (String × String)) (freshSeed : String) :
    Response Page :=
  let request := seededRequest params engine.site freshSeed
  match engine.search request {} with
  | .error _ => .error searchFailed
  | .ok result =>
      match engine.load result.ids { curate := true } with
      | .error _ => .error loadFailed
      | .ok items =>
          .success {
            items := items
            total := UInt64.ofNat result.total
            page := request.page
            limit := request.limit
            seed := if request.key = .random then request.seed else none }

/-- Answers a list of ids with their items. -/
def items (engine : Engine) (ids : List Int64) : Response (List Listing.Item) :=
  match engine.search {} { allowIds := some ids, skipPagination := true } with
  | .error _ => .error loadFailed
  | .ok result =>
      match engine.load result.ids { order := some ids, curate := true } with
      | .error _ => .error loadFailed
      | .ok items => .success items

/-- Answers whether the service is alive, and with which dialect. -/
def health (engine : Engine) : Json :=
  .record [("status", .string "ok"), ("dialect", .string engine.connection.dialect.name)]

end Service
end Gallery
