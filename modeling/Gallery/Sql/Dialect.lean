import Gallery.FullText.Lexemes
import Gallery.FullText.Match
import Gallery.Search.Order

namespace Gallery
namespace Sql

/-!
# Dialects

Everything in which the two databases differ: how a placeholder is written, how
text is compared without regard to case, how the index is asked, how rows are
ordered, and how the tags of an item become one text.
-/

/-- The dialect in which a statement is written. -/
inductive Dialect where
  | postgres
  | sqlite
deriving DecidableEq, Repr

/-- A condition on the index: the text before and after its bound query. -/
structure FullTextCondition where
  opening : String
  query : String
  closing : String
deriving DecidableEq, Repr

/-- The keyword of a direction. -/
def directionKeyword : Search.Direction → String
  | .ascending => "ASC"
  | .descending => "DESC"

namespace Dialect

/-- The name of a dialect. -/
def name : Dialect → String
  | .postgres => "Postgres"
  | .sqlite => "Sqlite"

/-- The placeholder of the bind with the given number, counted from one. -/
def placeholder (dialect : Dialect) (number : Nat) : String :=
  match dialect with
  | .postgres => "$" ++ String.ofList (Nat.toDigits 10 number)
  | .sqlite => "?"

/-- The operator that compares text with a pattern. -/
def likeOperator : Dialect → String
  | .postgres => "ILIKE"
  | .sqlite => "LIKE"

/-- The condition for title words, if any word is left for the index. -/
def fullText? (dialect : Dialect) (words : Query.TitleWords) : Option FullTextCondition :=
  match dialect with
  | .postgres =>
      (FullText.Lexemes.query? words).map fun query =>
        ⟨"archives.fts @@ to_tsquery('simple', ", query, ")"⟩
  | .sqlite =>
      (FullText.Match.ofWords? words).map fun condition =>
        match condition with
        | .matching query =>
            ⟨"archives.id IN (SELECT rowid FROM archives_fts WHERE archives_fts MATCH ",
              query, ")"⟩
        | .excluding query =>
            ⟨"archives.id NOT IN (SELECT rowid FROM archives_fts WHERE archives_fts MATCH ",
              query, ")"⟩

/-- The leading expression of the order of a listing.  Archives without a
release date come last in both directions. -/
def orderExpression (dialect : Dialect) (key : Search.SortKey) (direction : Search.Direction) :
    String :=
  let keyword := directionKeyword direction
  match dialect, key with
  | .postgres, .releasedAt => "archives.released_at " ++ keyword ++ " NULLS LAST"
  | .sqlite, .releasedAt =>
      "archives.released_at IS NULL ASC, archives.released_at " ++ keyword
  | .postgres, .title => "archives.title " ++ keyword
  | .sqlite, .title => "archives.title COLLATE NOCASE " ++ keyword
  | _, .pages => "archives.pages " ++ keyword
  | _, .createdAt => "archives.created_at " ++ keyword
  | _, .random => "archives.created_at " ++ keyword

/-- Whether the order by title is natural already. -/
def ordersNaturally : Dialect → Bool
  | .postgres => true
  | .sqlite => false

/-- The text of the tags of an item, in the order in which they were linked. -/
def tagList : Dialect → String
  | .postgres =>
      "(SELECT COALESCE(json_agg(t), '[]'::json)::text FROM (\n" ++
      "            SELECT tags.id, tags.namespace, tags.name, tags.display_name\n" ++
      "            FROM archive_tags INNER JOIN tags ON tags.id = archive_tags.tag_id\n" ++
      "            WHERE archive_tags.archive_id = archives.id\n" ++
      "            ORDER BY archive_tags.created_at ASC, tags.id ASC\n" ++
      "        ) AS t)"
  | .sqlite =>
      "(SELECT json_group_array(json_object('id', t.id, 'namespace', t.namespace, " ++
      "'name', t.name, 'display_name', t.display_name)) FROM (\n" ++
      "            SELECT tags.id, tags.namespace, tags.name, tags.display_name\n" ++
      "            FROM archive_tags INNER JOIN tags ON tags.id = archive_tags.tag_id\n" ++
      "            WHERE archive_tags.archive_id = archives.id\n" ++
      "            ORDER BY archive_tags.created_at ASC, tags.id ASC\n" ++
      "        ) AS t)"

end Dialect

end Sql
end Gallery
