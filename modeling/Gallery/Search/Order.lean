import Gallery.Text.Blank
import Gallery.Text.Lowercase
import Gallery.Text.Natural

namespace Gallery
namespace Search

/-!
# Keys and directions of a listing

A listing is ordered by one of five keys in one of two directions.  The random
key stands for a shuffle and, without a seed, for the order of creation.
-/

/-- What a listing is ordered by. -/
inductive SortKey where
  | title
  | pages
  | createdAt
  | releasedAt
  | random
deriving DecidableEq, Repr

namespace SortKey

/-- All keys. -/
def all : List SortKey :=
  [.title, .pages, .createdAt, .releasedAt, .random]

/-- The name of a key in requests and in the configuration. -/
def name : SortKey → String
  | .title => "title"
  | .pages => "pages"
  | .createdAt => "created_at"
  | .releasedAt => "released_at"
  | .random => "random"

/-- The key with exactly the given name. -/
def ofName? (name : String) : Option SortKey :=
  all.find? fun key => key.name = name

end SortKey

/-- The direction of a listing. -/
inductive Direction where
  | ascending
  | descending
deriving DecidableEq, Repr

namespace Direction

/-- Both directions. -/
def all : List Direction :=
  [.ascending, .descending]

/-- The name of a direction in requests and in the configuration. -/
def name : Direction → String
  | .ascending => "asc"
  | .descending => "desc"

/-- The direction with exactly the given name. -/
def ofName? (name : String) : Option Direction :=
  all.find? fun direction => direction.name = name

/-- The order of two things in this direction, given their ascending order. -/
def apply : Direction → Ordering → Ordering
  | .ascending, ordering => ordering
  | .descending, ordering => ordering.swap

end Direction

/-- A parameter without the blanks around it, in small letters. -/
def normalize (parameter : String) : String :=
  Text.lowerAscii (String.ofList (Text.trim parameter.toList))

/-- Reads a key from a request parameter. -/
def SortKey.parse? (parameter : String) : Option SortKey :=
  SortKey.ofName? (normalize parameter)

/-- Reads a direction from a request parameter. -/
def Direction.parse? (parameter : String) : Option Direction :=
  Direction.ofName? (normalize parameter)

/-- Sorts rows by their titles in natural order.  Rows with equal titles keep
their order in both directions, since the comparison is turned round and not the
list. -/
def sortNaturally {α : Type} (direction : Direction) (rows : List (α × String)) :
    List (α × String) :=
  rows.mergeSort fun a b => (direction.apply (Text.compareNaturally a.2 b.2)).isLE

end Search
end Gallery
