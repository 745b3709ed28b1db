import Gallery.Listing.Curation
import Gallery.Search.Connection
import Gallery.Search.Page
import Gallery.Search.Shuffle

namespace Gallery
namespace Search

/-!
# The search engine

A search reads the query, adds the blacklist to its tags, resolves the excluded
and the optional ones, and runs one plan.  What the database cannot order is
ordered afterwards: titles in natural order, and random listings by their seed.
Then one page is cut out.  Two cases need no plan: an empty list of allowed
archives, and optional tags that no archive carries.
-/

/-- A search engine: a connection and the settings of the site. -/
structure Engine where
  connection : Connection
  site : Config.Site := {}

/-- How items are loaded: in which order, and whether their tags are curated. -/
structure LoadOptions where
  order : Option (List Int64) := none
  curate : Bool := false

/-- The rows of a plan in the order of the listing. -/
def arrange (dialect : Sql.Dialect) (request : Request) (rows : List (Int64 × String)) :
    List (Int64 × String) :=
  match request.key with
  | .title =>
      if dialect.ordersNaturally then rows else sortNaturally request.direction rows
  | .random =>
      match request.seed with
      | some seed => shuffle seed rows
      | none => rows
  | _ => rows

/-- The query of a request with the tags of a blacklist. -/
def queryOf (request : Request) (options : Options) : Query :=
  let query := Query.parse request.query
  { query with
    tags := query.tags ++ options.blacklist.filterMap Query.TagFilter.ofBlacklistEntry? }

/-- The result for the ids of a whole listing. -/
def resultOf (request : Request) (options : Options) (ids : List Int64) : Result where
  ids := if options.skipPagination then ids else paginate ids request.page request.limit
  total := ids.length

namespace Engine

/-- Searches, unless the search has been cancelled. -/
def search (engine : Engine) (request : Request) (options : Options)
    (cancelled : Bool := false) : Except SearchError Result := do
  if options.allowIds = some [] then return {}
  if cancelled then throw .cancelled
  let query := queryOf request options
  let resolution ← engine.connection.resolve query.tags
  if resolution.optional = some [] then return {}
  let plan := Plan.ofQuery query resolution request options
  let dialect := engine.connection.dialect
  let rows ← engine.connection.run dialect plan.evaluate
  return resultOf request options ((arrange dialect request rows).map Prod.fst)

/-- Reads an item from its row. -/
def readItem (row : Listing.Row) : Except SearchError Listing.Item :=
  match row.item? with
  | some item => .ok item
  | none => .error .malformedTags

/-- Loads the items with the given ids. -/
def load (engine : Engine) (ids : List Int64) (options : LoadOptions) :
    Except SearchError (List Listing.Item) := do
  if ids.isEmpty then return []
  let rows ← engine.connection.run engine.connection.dialect fun database => database.itemRows ids
  let items ← rows.mapM readItem
  let shown :=
    if options.curate then
      items.map fun item => { item with tags := engine.site.listing.curate item.tags }
    else items
  return Listing.restoreOrder shown (options.order.getD ids)

end Engine

end Search
end Gallery
