import Gallery.Config.Basic
import Gallery.Sql.Dialect
import Gallery.Store.Items
import Gallery.Store.Resolve

namespace Gallery
namespace Search

/-!
# Connections and what goes wrong on them

A connection leads to a database of one dialect and refuses statements that are
written in the other.  A connection that has been closed answers every statement
with a refusal.
-/

/-- A connection: to a database, or a closed one that spoke the given dialect. -/
inductive Connection where
  | sqlite (database : Database)
  | closed (spoken : Sql.Dialect)

/-- Why a search gives no answer. -/
inductive SearchError where
  | backend (refusal : Refusal)
  | dialectMismatch (written spoken : Sql.Dialect)
  | cancelled
  | malformedTags
deriving DecidableEq, Repr

/-- What a search error says. -/
def SearchError.message : SearchError → String
  | .backend _ => "database error"
  | .dialectMismatch written spoken =>
      "query rendered for " ++ written.name ++ " cannot run on a " ++ spoken.name ++ " connection"
  | .cancelled => "search cancelled"
  | .malformedTags => "malformed tag list"

namespace Connection

/-- A connection to a server that cannot be reached. -/
def closedPostgres : Connection :=
  .closed .postgres

/-- The dialect that a connection speaks. -/
def dialect : Connection → Sql.Dialect
  | .sqlite _ => .sqlite
  | .closed spoken => spoken

/-- The address of a database in memory. -/
def memoryAddress : String := "sqlite::memory:"

/-- Connects to a database.  Only one in memory is within reach, and it has no
tables yet. -/
def connect? (vendor : Config.Vendor) (address : String) : Option Connection :=
  if vendor = .sqlite && address = memoryAddress then some (.sqlite .empty) else none

/-- The connection after the missing tables have been created. -/
def migrate? : Connection → Option Connection
  | .sqlite database => some (.sqlite database.migrate)
  | .closed _ => none

/-- Carries out an edit.  A closed connection refuses every edit. -/
def edit (connection : Connection) (edit : Store.Edit) : Store.Outcome × Connection :=
  match connection with
  | .sqlite database =>
      let (outcome, edited) := database.run edit
      (outcome, .sqlite edited)
  | .closed spoken => (.refused, .closed spoken)

/-- Runs a statement that is written in a dialect. -/
def run {α : Type} (connection : Connection) (written : Sql.Dialect)
    (statement : Database → Except Refusal α) : Except SearchError α :=
  if written ≠ connection.dialect then .error (.dialectMismatch written connection.dialect)
  else
    match connection with
    | .sqlite database =>
        match statement database with
        | .ok answer => .ok answer
        | .error refusal => .error (.backend refusal)
    | .closed _ => .error (.backend .closed)

/-- The archives that carry a tag that matches one of the filters.  Without
filters no statement is run. -/
def archivesMatching (connection : Connection) (filters : List Query.TagFilter) :
    Except SearchError (List Int64) :=
  if filters.isEmpty then .ok []
  else connection.run connection.dialect fun database => database.archivesMatching filters

/-- Resolves the excluded and the optional ones of tag filters. -/
def resolve (connection : Connection) (tags : List Query.TagFilter) :
    Except SearchError Resolution := do
  let optional := tags.filter fun tag => tag.role = .optional
  let excludedArchives ← connection.archivesMatching (tags.filter fun tag => tag.role = .excluded)
  let optionalArchives ← connection.archivesMatching optional
  return {
    excluded := excludedArchives
    optional := if optional.isEmpty then none else some optionalArchives }

end Connection

end Search
end Gallery
