import Gallery.Query
import Gallery.Search.Order

namespace Gallery

/-!
# Plans

A plan says what a search demands of an archive without saying in which
database it lives: conditions on single archives, counts over joined tables
with the joins that they need, and an order.
-/

namespace Plan

/-- A column compared with a number. -/
inductive Column where
  | pages
  | size
deriving DecidableEq, Repr

/-- A condition on one archive. -/
inductive Condition where
  /-- It carries a tag that matches the pattern. -/
  | hasTag (scope pattern : String)
  | idIn (ids : List Int64)
  | idNotIn (ids : List Int64)
  | fullText (words : Query.TitleWords)
  | compare (column : Column) (comparison : Comparison) (value : Int64)
  | language (pattern : String)
  | anySourceName (patterns : List String)
  /-- One of its addresses contains one of the texts. -/
  | anySourceUrl (texts : List String)
  | inSeries
  /-- It is not deleted. -/
  | visible
deriving DecidableEq, Repr

/-- A join that a count needs.  A join on the tags of one namespace has a label
of its own and hangs on the join on all tags. -/
inductive CountJoin where
  | tags
  | sources
  | tagsIn (label scope : String)
deriving DecidableEq, Repr

/-- What is counted. -/
inductive Target where
  | tags
  | sources
  | tagsIn (label : String)
deriving DecidableEq, Repr

/-- A condition on a count. -/
structure Having where
  target : Target
  comparison : Comparison
  value : Int64
deriving DecidableEq, Repr

/-- The pattern for addresses that contain a text. -/
def urlPattern (text : String) : String :=
  "%" ++ text ++ "%"

end Plan

/-- A plan for a search. -/
structure Plan where
  conditions : List Plan.Condition
  joins : List Plan.CountJoin
  having : List Plan.Having
  key : Search.SortKey
  direction : Search.Direction
deriving DecidableEq, Repr

namespace Plan

/-- Whether rows have to be grouped, which is so as soon as a table is joined. -/
def needsGrouping (plan : Plan) : Bool :=
  !plan.joins.isEmpty

end Plan

end Gallery
