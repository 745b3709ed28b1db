import Gallery.Json.Printer
import Gallery.Listing.Settings
import Gallery.Search.Order

namespace Gallery

/-!
# Configuration

Where the server listens, which database it opens, and how the site lists its
archives.  Every part has defaults, so an empty configuration is complete.
-/

namespace Config

/-- Where the server listens. -/
structure Server where
  host : String := "0.0.0.0"
  port : UInt16 := 3000
deriving DecidableEq, Repr

/-- The kind of database. -/
inductive Vendor where
  | sqlite
  | postgresql
deriving DecidableEq, Repr

/-- Which database is opened, given by its file or by its whole address. -/
structure Database where
  vendor : Vendor := .sqlite
  dataDir : String := "data"
  dbFile : String := "gallery.db"
  url : Option String := none
  maxConnections : UInt32 := 8
deriving DecidableEq, Repr

/-- How the site lists its archives. -/
structure Site where
  defaultSort : Search.SortKey := .releasedAt
  defaultOrder : Search.Direction := .descending
  listing : Listing.Settings := {}
deriving DecidableEq, Repr

/-- All kinds of database. -/
def Vendor.all : List Vendor :=
  [.sqlite, .postgresql]

/-- The name of a kind of database. -/
def Vendor.name : Vendor → String
  | .sqlite => "sqlite"
  | .postgresql => "postgresql"

/-- The kind of database with the given name. -/
def Vendor.ofName? (name : String) : Option Vendor :=
  Vendor.all.find? fun vendor => vendor.name = name

/-- A path below a directory.  An absolute path replaces the directory, and a
separator is added where one is missing. -/
def joinPath (dir path : String) : String :=
  if path.toList.head? = some '/' then path
  else if dir.isEmpty || dir.toList.getLast? = some '/' then dir ++ path
  else dir ++ "/" ++ path

/-- The address of a database. -/
def Database.address (database : Database) : String :=
  match database.url with
  | some url => url
  | none => "sqlite:" ++ joinPath database.dataDir database.dbFile ++ "?mode=rwc"

/-- The address on which a server listens. -/
def Server.bindAddress (server : Server) : String :=
  server.host ++ ":" ++ String.ofList (Json.decimal server.port.toNat)

end Config

/-- A configuration. -/
structure Config where
  server : Config.Server := {}
  database : Config.Database := {}
  site : Config.Site := {}
deriving DecidableEq, Repr

end Gallery
