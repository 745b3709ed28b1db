import Gallery.Plan.Basic
import Gallery.Sql.Statement

namespace Gallery
namespace Plan

/-!
# The statement of a plan

The joins come first, the one on all tags before those that hang on it; then the
conditions and the counts in the order of the plan.  A full-text condition of
which the index has nothing left to search for is not written at all.
-/

open Sql (Fragment Dialect Rendered textBind intBind idList)

/-- The joins in the order in which they are written. -/
def orderedJoins (joins : List CountJoin) : List CountJoin :=
  joins.filter (· = .tags) ++
  joins.filter (fun join => join ≠ .tags && join ≠ .sources) ++
  joins.filter (· = .sources)

/-- The fragments of a join. -/
def CountJoin.fragments : CountJoin → List Fragment
  | .tags =>
      [.raw " LEFT JOIN archive_tags AS tag_links ON tag_links.archive_id = archives.id"]
  | .sources =>
      [.raw " LEFT JOIN archive_sources AS source_links ON source_links.archive_id = archives.id"]
  | .tagsIn label scope =>
      [.raw (" LEFT JOIN tags AS " ++ label ++ " ON " ++ label ++ ".id = tag_links.tag_id AND " ++
          label ++ ".namespace = "),
        textBind scope]

/-- The name of a column. -/
def Column.sql : Column → String
  | .pages => "archives.pages"
  | .size => "archives.size"

/-- The condition that an archive carries a tag that matches. -/
def hasTagFragments (scope pattern : String) : List Fragment :=
  .raw ("EXISTS (SELECT 1 FROM archive_tags INNER JOIN tags ON tags.id = archive_tags.tag_id " ++
      "WHERE archive_tags.archive_id = archives.id AND ") ::
    if Query.isGeneric scope then
      [.raw "(tags.name ", .like, .raw " ", textBind pattern, .raw " OR tags.display_name ", .like,
        .raw " ", textBind pattern, .raw "))"]
    else
      [.raw "tags.name ", .like, .raw " ", textBind pattern, .raw " AND tags.namespace = ",
        textBind scope, .raw ")"]

/-- The condition that some source of an archive has a matching column. -/
def sourceFragments (column pattern : String) : List Fragment :=
  [.raw ("EXISTS (SELECT 1 FROM archive_sources WHERE archive_sources.archive_id = archives.id " ++
      "AND archive_sources." ++ column ++ " "),
    .like, .raw " ", textBind pattern, .raw ")"]

/-- Alternatives in parentheses. -/
def anyOf (alternatives : List (List Fragment)) : List Fragment :=
  .raw "(" :: (List.intercalate [.raw " OR "] alternatives ++ [.raw ")"])

/-- The fragments of a condition in a dialect, or none when nothing is left of
it. -/
def Condition.fragments? (dialect : Dialect) : Condition → Option (List Fragment)
  | .hasTag scope pattern => some (hasTagFragments scope pattern)
  | .idIn ids =>
      some (if ids.isEmpty then [.raw "1 = 0"] else [.raw "archives.id IN ", idList ids])
  | .idNotIn ids =>
      some (if ids.isEmpty then [.raw "1 = 1"] else [.raw "archives.id NOT IN ", idList ids])
  | .fullText words =>
      (dialect.fullText? words).map fun condition =>
        [.raw condition.opening, textBind condition.query, .raw condition.closing]
  | .compare column comparison value =>
      some [.raw (column.sql ++ " " ++ comparison.symbol ++ " "), intBind value]
  | .language pattern => some [.raw "archives.language ", .like, .raw " ", textBind pattern]
  | .anySourceName patterns => some (anyOf (patterns.map (sourceFragments "name")))
  | .anySourceUrl texts =>
      some (anyOf (texts.map fun text => sourceFragments "url" (urlPattern text)))
  | .inSeries =>
      some [.raw ("EXISTS (SELECT 1 FROM series_archive " ++
        "WHERE series_archive.archive_id = archives.id)")]
  | .visible => some [.raw "archives.deleted_at IS NULL"]

/-- The expression that counts a target. -/
def Target.sql : Target → String
  | .tags => "COUNT(DISTINCT tag_links.tag_id)"
  | .sources => "COUNT(DISTINCT source_links.id)"
  | .tagsIn label => "COUNT(DISTINCT " ++ label ++ ".id)"

/-- The fragments of a condition on a count. -/
def Having.fragments (having : Having) : List Fragment :=
  [.raw (having.target.sql ++ " " ++ having.comparison.symbol ++ " "), intBind having.value]

/-- Conditions with a keyword in front of the first and `AND` between them. -/
def conjunction (keyword : String) (conditions : List (List Fragment)) : List Fragment :=
  if conditions.isEmpty then []
  else .raw keyword :: List.intercalate [.raw " AND "] conditions

/-- The conditions that are written in a dialect. -/
def writtenConditions (plan : Plan) (dialect : Dialect) : List (List Fragment) :=
  plan.conditions.filterMap (Condition.fragments? dialect)

/-- The order of the rows.  Equal keys are told apart by the time of creation and
then by the id. -/
def orderFragment (plan : Plan) (dialect : Dialect) : Fragment :=
  let keyword := Sql.directionKeyword plan.direction
  .raw (" ORDER BY " ++ dialect.orderExpression plan.key plan.direction ++
    ", archives.created_at " ++ keyword ++ ", archives.id " ++ keyword)

/-- The fragments of the statement of a plan. -/
def fragments (plan : Plan) (dialect : Dialect) : List Fragment :=
  .raw "SELECT archives.id, archives.title FROM archives" ::
    ((orderedJoins plan.joins).flatMap CountJoin.fragments ++
      conjunction " WHERE " (plan.writtenConditions dialect) ++
      (if plan.needsGrouping then [.raw " GROUP BY archives.id"] else []) ++
      conjunction " HAVING " (plan.having.map Having.fragments) ++
      [plan.orderFragment dialect])

/-- The statement of a plan in a dialect. -/
def render (plan : Plan) (dialect : Dialect) : Rendered :=
  Sql.render dialect (plan.fragments dialect)

end Plan
end Gallery
