import Gallery.Json.Printer
import Gallery.Store.Basic

namespace Gallery

/-!
# Databases and edits

A database is a store some of whose tables may be missing.  An edit names
tables, and a database without one of them refuses it.  Edits keep the index in
step: a new archive gets a row, a new title or description is copied, the names
of the tags are written anew whenever a link comes or goes, and a deleted archive
takes its row along.  Renaming a tag tells the index nothing.

A row that goes takes along the rows that refer to it.  Each of the tables that
they stand in is looked into with all that it needs itself, so an edit may ask for
tables of which it changes nothing.
-/

/-- A table of a database. -/
inductive Table where
  | archives
  | tags
  | archiveTags
  | archiveSources
  | series
  | seriesArchive
  | archivesIndex
deriving DecidableEq, Repr

/-- All tables. -/
def Table.all : List Table :=
  [.archives, .tags, .archiveTags, .archiveSources, .series, .seriesArchive, .archivesIndex]

/-- A store with the tables that are missing from it, which are empty. -/
structure Database where
  store : Store := {}
  missing : List Table := []

namespace Store

/-- A column of an archive that an edit may set: every one but its id. -/
inductive Column where
  | hash
  | title
  | description
  | pages
  | thumbnail
  | language
  | size
  | createdAt
  | releasedAt
  | deletedAt
deriving DecidableEq, Repr

/-- A value for a column. -/
inductive Value where
  | null
  | integer (value : Int64)
  | text (value : String)
deriving DecidableEq, Repr

/-- The text that a column of texts takes from a value. -/
def Value.text? : Value → Option String
  | .null => none
  | .integer value => some (String.ofList (Json.decimal value.toInt))
  | .text value => some value

/-- The number that a column of numbers takes from a value. -/
def Value.integer? : Value → Option Int64
  | .null => none
  | .integer value => some value
  | .text value => Text.readInt64 value.toList

/-- An archive with a column set, unless the column may not be empty. -/
def Archive.set? (archive : Archive) (column : Column) (value : Value) : Option Archive :=
  match column with
  | .hash => value.text?.map fun text => { archive with hash := text }
  | .title => value.text?.map fun text => { archive with title := text }
  | .description => some { archive with description := value.text? }
  | .pages => value.integer?.map fun number => { archive with pages := number }
  | .thumbnail => value.integer?.map fun number => { archive with thumbnail := number }
  | .language => some { archive with language := value.text? }
  | .size => value.integer?.map fun number => { archive with size := number }
  | .createdAt => value.text?.map fun text => { archive with createdAt := text }
  | .releasedAt => some { archive with releasedAt := value.text? }
  | .deletedAt => some { archive with deletedAt := value.text? }

/-- Whether the index copies a column. -/
def Column.isIndexed (column : Column) : Bool :=
  column = .title || column = .description

/-- An edit of a database. -/
inductive Edit where
  | insertArchive (id : Option Int64) (details : Details)
  | updateArchive (id : Int64) (column : Column) (value : Value)
  | deleteArchive (id : Int64)
  | link (archive : Int64) (scope name : String) (displayName : Option String) (time : String)
  | unlink (archive : Int64) (scope name : String)
  | renameTag (scope name newName : String) (displayName : Option String)
  | insertSource (archive : Int64) (name : String) (url : Option String)
  | insertMembership (archive series : Int64)
  | dropTable (table : Table)
  | migrate

/-- What comes of an edit. -/
inductive Outcome where
  | refused
  | inserted (id : Int64)
  | changed (count : Nat)
  | done
deriving DecidableEq, Repr

/-- The id after the largest one given out, if there is one. -/
def nextId? (last : Int64) : Option Int64 :=
  if last = Int64.maxValue then none else some (last + 1)

/-- The index row of a new archive, which has no tags yet. -/
def IndexRow.ofArchive (archive : Archive) : IndexRow where
  id := archive.id
  title := archive.title
  description := archive.description.getD ""
  tags := ""

/-- The store with the row of an archive brought up to date with its title and
description. -/
def reindexTexts (store : Store) (archive : Archive) : Store :=
  { store with index := store.index.map fun row =>
      if row.id = archive.id then
        { row with title := archive.title, description := archive.description.getD "" }
      else row }

/-- The store with the row of an archive brought up to date with its tags. -/
def reindexTags (store : Store) (archive : Int64) : Store :=
  { store with index := store.index.map fun row =>
      if row.id = archive then
        { row with tags := " ".intercalate ((store.tagsOf archive).map Listing.Tag.name) }
      else row }

/-- Adds an archive under the given id. -/
def addArchive (store : Store) (id : Int64) (details : Details) : Store :=
  let archive : Archive := { details with id := id }
  { store with
    archives := store.archives ++ [archive]
    index := store.index ++ [IndexRow.ofArchive archive]
    lastArchive := max store.lastArchive id }

/-- Takes an archive away with everything attached to it. -/
def removeArchive (store : Store) (id : Int64) : Store :=
  { store with
    archives := store.archives.filter fun archive => archive.id ≠ id
    links := store.links.filter fun link => link.archive ≠ id
    sources := store.sources.filter fun source => source.archive ≠ id
    memberships := store.memberships.filter fun member => member.archive ≠ id
    index := store.index.filter fun row => row.id ≠ id }

/-- Adds a tag unless its namespace and name are taken.  The next id is used up
in both cases. -/
def ensureTag? (store : Store) (scope name : String) (displayName : Option String) :
    Option Store := do
  let id ← nextId? store.lastTag
  let store := { store with lastTag := id }
  if (store.tag? scope name).isSome then return store
  else
    return { store with
      tags := store.tags ++ [{ id := id, scope := scope, name := name, displayName := displayName }] }

/-- Links a tag to an archive, unless it is linked already or there is no such
archive. -/
def addLink? (store : Store) (archive : Int64) (scope name time : String) : Option Store := do
  let tag ← store.tag? scope name
  if !store.hasArchive archive then none
  else if store.links.any fun link => link.archive = archive && link.tag = tag.id then none
  else
    return reindexTags { store with links := store.links ++ [⟨archive, tag.id, time⟩] } archive

/-- The link of an archive to a tag, if there is one. -/
def link? (store : Store) (archive : Int64) (scope name : String) : Option Link := do
  let tag ← store.tag? scope name
  store.links.find? fun link => link.archive = archive && link.tag = tag.id

end Store

namespace Database

open Store (Edit Outcome)

/-- A database that has no tables yet. -/
def empty : Database where
  missing := Table.all

/-- Whether all of the tables are there. -/
def has (database : Database) (tables : List Table) : Bool :=
  tables.all fun table => !database.missing.contains table

/-- The database with another store. -/
def withStore (database : Database) (store : Store) : Database :=
  { database with store := store }

/-- Creates the missing tables, empty. -/
def migrate (database : Database) : Database :=
  { database with missing := [] }

/-- The tables that are looked into when rows of a table go: each table that refers
to it, if it is there, needs the other one that it refers to, and links need the
index besides. -/
def referringTables (database : Database) (table : Table) : List Table :=
  let ofLinks (other : Table) : List Table :=
    if database.has [.archiveTags] then [other, .archivesIndex] else []
  let ofMemberships (other : Table) : List Table :=
    if database.has [.seriesArchive] then [other] else []
  match table with
  | .archives => ofLinks .tags ++ ofMemberships .series
  | .tags => ofLinks .archives
  | .series => ofMemberships .archives
  | _ => []

/-- Whether a table cannot be dropped because links refer to its rows.  They would
go along, and the index cannot be told while a table is dropped. -/
def isLocked (database : Database) (table : Table) : Bool :=
  (table = .archives || table = .tags) && !database.store.links.isEmpty

/-- The database without a table and without the rows that refer to it.  The index
keeps its rows. -/
def drop (database : Database) (table : Table) : Database :=
  let store := database.store
  {
    missing := table :: database.missing
    store := match table with
      | .archives =>
          { store with
            archives := [], sources := [], memberships := [], links := [], lastArchive := 0 }
      | .tags => { store with tags := [], links := [], lastTag := 0 }
      | .archiveTags => { store with links := [] }
      | .archiveSources => { store with sources := [], lastSource := 0 }
      | .series | .seriesArchive => { store with memberships := [] }
      | .archivesIndex => { store with index := [] } }

/-- Drops a table, unless one that is looked into is missing. -/
def dropTable (database : Database) (table : Table) : Outcome × Database :=
  if !database.has (table :: database.referringTables table) || database.isLocked table then
    (.refused, database)
  else (.done, database.drop table)

/-- Inserts an archive, unless the index still has a row with its id. -/
def insertArchive (database : Database) (id : Option Int64) (details : Store.Details) :
    Outcome × Database :=
  let store := database.store
  match id <|> Store.nextId? store.lastArchive with
  | none => (.refused, database)
  | some id =>
      if !database.has [.archives, .archivesIndex] || store.hasArchive id ||
          store.archives.any (fun archive => archive.hash = details.hash) ||
          store.index.any (fun row => row.id = id) then
        (.refused, database)
      else (.inserted id, database.withStore (store.addArchive id details))

/-- Sets a column of an archive, unless it would take the hash of another one. -/
def updateArchive (database : Database) (id : Int64) (column : Store.Column)
    (value : Store.Value) : Outcome × Database :=
  let store := database.store
  if !database.has (if column.isIndexed then [.archives, .archivesIndex] else [.archives]) then
    (.refused, database)
  else
    match store.archive? id with
    | none => (.changed 0, database)
    | some archive =>
        match archive.set? column value with
        | none => (.refused, database)
        | some updated =>
            if column = .hash &&
                store.archives.any (fun other => other.id ≠ id && other.hash = updated.hash) then
              (.refused, database)
            else
              let archives := store.archives.map fun other =>
                if other.id = id then updated else other
              let changed := { store with archives := archives }
              (.changed 1, database.withStore
                (if column.isIndexed then changed.reindexTexts updated else changed))

/-- Deletes an archive. -/
def deleteArchive (database : Database) (id : Int64) : Outcome × Database :=
  if !database.has (.archives :: .archivesIndex :: database.referringTables .archives) then
    (.refused, database)
  else if database.store.hasArchive id then
    (.changed 1, database.withStore (database.store.removeArchive id))
  else (.changed 0, database)

/-- Links a tag to an archive and creates the tag where it is new.  A tag that
has been created stays when the link is refused. -/
def link (database : Database) (archive : Int64) (scope name : String)
    (displayName : Option String) (time : String) : Outcome × Database :=
  if !database.has [.tags] then (.refused, database)
  else
    match database.store.ensureTag? scope name displayName with
    | none => (.refused, database)
    | some store =>
        let tagged := database.withStore store
        if !tagged.has [.archives, .archiveTags, .archivesIndex] then (.refused, tagged)
        else
          match store.addLink? archive scope name time with
          | none => (.refused, tagged)
          | some linked => (.done, database.withStore linked)

/-- Takes a tag from an archive. -/
def unlink (database : Database) (archive : Int64) (scope name : String) : Outcome × Database :=
  if !database.has [.archives, .tags, .archiveTags, .archivesIndex] then (.refused, database)
  else
    match database.store.link? archive scope name with
    | none => (.changed 0, database)
    | some link =>
        let store := { database.store with links := database.store.links.filter (· ≠ link) }
        (.changed 1, database.withStore (store.reindexTags archive))

/-- Renames a tag, unless another tag has the new name. -/
def renameTag (database : Database) (scope name newName : String)
    (displayName : Option String) : Outcome × Database :=
  let store := database.store
  if !database.has [.tags] then (.refused, database)
  else if (store.tag? scope name).isNone then (.changed 0, database)
  else if newName ≠ name && (store.tag? scope newName).isSome then (.refused, database)
  else
    (.changed 1, database.withStore { store with
      tags := store.tags.map fun tag =>
        if tag.scope = scope && tag.name = name then
          { tag with name := newName, displayName := displayName }
        else tag })

/-- Adds a source to an archive. -/
def insertSource (database : Database) (archive : Int64) (name : String) (url : Option String) :
    Outcome × Database :=
  let store := database.store
  if !database.has [.archives, .archiveSources] || !store.hasArchive archive then
    (.refused, database)
  else
    (.done, database.withStore { store with
      sources := store.sources ++ [⟨store.lastSource + 1, archive, name, url⟩]
      lastSource := store.lastSource + 1 })

/-- Puts an archive into a series. -/
def insertMembership (database : Database) (archive series : Int64) : Outcome × Database :=
  let store := database.store
  if !database.has [.archives, .series, .seriesArchive] || !store.hasArchive archive ||
      store.memberships.contains ⟨series, archive⟩ then
    (.refused, database)
  else
    (.done, database.withStore { store with memberships := store.memberships ++ [⟨series, archive⟩] })

/-- Carries out an edit. -/
def run (database : Database) : Edit → Outcome × Database
  | .insertArchive id details => database.insertArchive id details
  | .updateArchive id column value => database.updateArchive id column value
  | .deleteArchive id => database.deleteArchive id
  | .link archive scope name displayName time => database.link archive scope name displayName time
  | .unlink archive scope name => database.unlink archive scope name
  | .renameTag scope name newName displayName =>
      database.renameTag scope name newName displayName
  | .insertSource archive name url => database.insertSource archive name url
  | .insertMembership archive series => database.insertMembership archive series
  | .dropTable table => database.dropTable table
  | .migrate => (.done, database.migrate)

end Database

end Gallery
