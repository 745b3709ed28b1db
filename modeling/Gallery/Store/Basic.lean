import Gallery.Listing.Tag

namespace Gallery

/-!
# The store

The store holds the archives of a gallery with everything that is attached to
them, table by table.  The index is a table of its own: it has texts of an
archive as they were when it was last told, and nothing but edits tells it.
-/

namespace Store

/-- What is known of an archive besides its id.  Times are texts. -/
structure Details where
  hash : String
  title : String
  description : Option String := none
  pages : Int64 := 0
  thumbnail : Int64 := 1
  language : Option String := none
  size : Int64 := 0
  createdAt : String
  releasedAt : Option String := none
  deletedAt : Option String := none
deriving DecidableEq, Repr

/-- An archive. -/
structure Archive extends Details where
  id : Int64
deriving DecidableEq, Repr

/-- The fact that an archive carries a tag, with the time of linking. -/
structure Link where
  archive : Int64
  tag : Int64
  time : String
deriving DecidableEq, Repr

/-- A source of an archive. -/
structure Source where
  id : Nat
  archive : Int64
  name : String
  url : Option String
deriving DecidableEq, Repr

/-- The fact that an archive belongs to a series. -/
structure Membership where
  series : Int64
  archive : Int64
deriving DecidableEq, Repr

/-- A row of the index: the texts of an archive. -/
structure IndexRow where
  id : Int64
  title : String
  description : String
  tags : String
deriving DecidableEq, Repr

end Store

open Store in
/-- The tables of a gallery, with the largest ids ever given out. -/
structure Store where
  archives : List Archive := []
  tags : List Listing.Tag := []
  links : List Link := []
  sources : List Source := []
  memberships : List Membership := []
  index : List IndexRow := []
  lastArchive : Int64 := 0
  lastTag : Int64 := 0
  lastSource : Nat := 0

namespace Store

/-- The tags linked to an archive, in the order of their ids. -/
def tagsOf (store : Store) (archive : Int64) : List Listing.Tag :=
  (store.tags.filter fun tag =>
    store.links.any fun link => link.archive = archive && link.tag = tag.id).mergeSort
      fun a b => a.id ≤ b.id

/-- The archive with the given id. -/
def archive? (store : Store) (id : Int64) : Option Archive :=
  store.archives.find? fun archive => archive.id = id

/-- Whether there is an archive with the given id. -/
def hasArchive (store : Store) (id : Int64) : Bool :=
  store.archives.any fun archive => archive.id = id

/-- The tag with the given namespace and name. -/
def tag? (store : Store) (scope name : String) : Option Listing.Tag :=
  store.tags.find? fun tag => tag.scope = scope && tag.name = name

end Store

end Gallery
