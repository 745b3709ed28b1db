import Gallery.Listing.Row
import Gallery.Store.Refusal

namespace Gallery

/-!
# Rows of items in a store

The row of an item holds the fields of its archive and the text of its tags, in
the order in which they were linked; tags linked at the same time stand in the
order of their ids.
-/

namespace Store

/-- The order of two linked tags. -/
def compareLinked (a b : String × Listing.Tag) : Ordering :=
  (Text.compareText a.1 b.1).then (compare a.2.id.toInt b.2.id.toInt)

/-- The tags of an archive with the times at which they were linked. -/
def linkedTags (store : Store) (archive : Int64) : List (String × Listing.Tag) :=
  store.links.flatMap fun link =>
    if link.archive = archive then
      (store.tags.filter fun tag => tag.id = link.tag).map fun tag => (link.time, tag)
    else []

/-- The tags of an archive in the order in which they were linked. -/
def orderedTags (store : Store) (archive : Int64) : List Listing.Tag :=
  ((store.linkedTags archive).mergeSort fun a b => (compareLinked a b).isLE).map Prod.snd

/-- The row of an item. -/
def itemRow (store : Store) (archive : Archive) : Listing.Row where
  id := archive.id
  hash := archive.hash
  title := archive.title
  pages := archive.pages
  thumbnail := archive.thumbnail
  deleted := archive.deletedAt.isSome
  tags := Listing.tagText (store.orderedTags archive.id)

/-- The archives with the given ids. -/
def withIds (store : Store) (ids : List Int64) : List Archive :=
  store.archives.filter fun archive => ids.contains archive.id

end Store

namespace Database

/-- The archives with the given ids. -/
def archives (database : Database) (ids : List Int64) : Except Refusal (List Store.Archive) :=
  match database.refusal? [.archives] with
  | some refusal => .error refusal
  | none => .ok (database.store.withIds ids)

/-- The rows of the items with the given ids. -/
def itemRows (database : Database) (ids : List Int64) : Except Refusal (List Listing.Row) :=
  match database.refusal? [.archives, .archiveTags, .tags] with
  | some refusal => .error refusal
  | none => .ok ((database.store.withIds ids).map database.store.itemRow)

end Database

end Gallery
