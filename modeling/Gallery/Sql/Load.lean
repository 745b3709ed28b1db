import Gallery.Sql.Statement

namespace Gallery
namespace Sql

/-!
# Loading items

One statement loads the items of a page, each with its tags as one text.
-/

/-- The fragments of the statement that loads the archives with the given ids. -/
def loadFragments (ids : List Int64) : List Fragment := [
  .raw ("SELECT archives.id AS id, archives.hash AS hash, archives.title AS title, " ++
    "archives.pages AS pages, archives.thumbnail AS thumbnail, " ++
    "archives.deleted_at IS NOT NULL AS deleted, "),
  .tagList,
  .raw " AS tags FROM archives WHERE archives.id IN ",
  idList ids]

/-- The statement that loads the archives with the given ids. -/
def renderLoad (dialect : Dialect) (ids : List Int64) : Rendered :=
  render dialect (loadFragments ids)

end Sql
end Gallery
