import Gallery.Config.Basic
import Gallery.Text.Split

namespace Gallery
namespace Search

/-!
# Requests

A request is a query with the order and the page that are wanted.  It is built
from the parameters of an address, of which every one may be missing or
malformed; what cannot be used falls back to the settings of the site, so every
list of parameters is a request.
-/

/-- A search request. -/
structure Request where
  query : String := ""
  key : SortKey := .releasedAt
  direction : Direction := .descending
  seed : Option String := none
  page : UInt64 := 1
  limit : UInt64 := 24
  ids : Option (List Int64) := none
  series : Bool := false
deriving DecidableEq, Repr

/-- What the caller of a search decides: whether deleted archives are shown, to
which archives the search is limited, which tags are excluded in any case, and
whether the whole list is wanted instead of a page. -/
structure Options where
  showHidden : Bool := false
  allowIds : Option (List Int64) := none
  blacklist : List String := []
  skipPagination : Bool := false
deriving DecidableEq, Repr

/-- The ids of a page and the number of all matches. -/
structure Result where
  ids : List Int64 := []
  total : Nat := 0
deriving DecidableEq, Repr

namespace Request

/-- The request for another page; pages are counted from one. -/
def withPage (request : Request) (page : UInt64) : Request :=
  { request with page := max page 1 }

/-- The ids in a list of numbers separated by commas.  What is no number is
left out. -/
def readIds (text : String) : List Int64 :=
  (Text.split (· = ',') text.toList).filterMap fun part => Text.readInt64 (Text.trim part)

/-- The request that the parameters of an address make. -/
def ofParams (params : List (String × String)) (site : Config.Site) : Request where
  query := (params.lookup "q").getD ""
  key := ((params.lookup "sort").bind SortKey.parse?).getD site.defaultSort
  direction := ((params.lookup "order").bind Direction.parse?).getD site.defaultOrder
  seed := (params.lookup "seed").filter (!·.isEmpty)
  page := max (((params.lookup "page").bind fun text => Text.readUInt64 text.toList).getD 1) 1
  limit :=
    (((params.lookup "limit").bind fun text => Text.readUInt64 text.toList).filter
      site.listing.pageLimits.contains).getD site.listing.fallbackLimit
  ids := ((params.lookup "ids").map readIds).filter (!·.isEmpty)
  series := (params.lookup "series").isSome

end Request

end Search
end Gallery
