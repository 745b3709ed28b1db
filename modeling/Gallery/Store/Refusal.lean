import Gallery.Plan.Nesting
import Gallery.Store.Edit
import Gallery.Store.Meaning
import Gallery.Text.Utf8

namespace Gallery

/-!
# What a database refuses

A database refuses a statement that names a missing table, joins too many or
nests too deep.  It also gives up when it meets a pattern that is too long or an
expression that it cannot read, but only if it gets that far: conditions on the
columns of a row are tried before those that look into other tables, and a row
that fails one condition is not tried against the next.
-/

/-- Why a database gives up on a statement. -/
inductive Refusal where
  | missingTable (table : Table)
  | tooManyTables
  | tooDeep
  | longPattern
  | malformedExpression
  | closed
deriving DecidableEq, Repr

/-- The most tables that one statement may join. -/
def tableLimit : Nat := 64

/-- The deepest nesting of a statement. -/
def nestingLimit : Nat := 1000

/-- The longest pattern in octets. -/
def patternLimit : Nat := 50000

/-- How many rows a database expects the index to find. -/
def expectedMatches : Nat := 25

/-- Whether a pattern is too long. -/
def isLongPattern (pattern : String) : Bool :=
  patternLimit < pattern.utf8ByteSize

namespace Database

/-- The first of the tables that is missing. -/
def refusal? (database : Database) (tables : List Table) : Option Refusal :=
  (tables.find? database.missing.contains).map .missingTable

end Database

namespace Plan

open Store (Archive)

/-- The tables that a condition names besides that of the archives. -/
def Condition.tables : Condition → List Table
  | .hasTag _ _ => [.archiveTags, .tags]
  | .fullText words => if (FullText.Match.ofWords? words).isSome then [.archivesIndex] else []
  | .anySourceName _ | .anySourceUrl _ => [.archiveSources]
  | .inSeries => [.seriesArchive]
  | _ => []

/-- The table that a join names. -/
def CountJoin.table : CountJoin → Table
  | .tags => .archiveTags
  | .sources => .archiveSources
  | .tagsIn _ _ => .tags

/-- The tables that a plan names. -/
def tables (plan : Plan) : List Table :=
  .archives :: (plan.joins.map CountJoin.table ++ plan.conditions.flatMap Condition.tables)

/-- Whether a condition looks into the tables around an archive. -/
def Condition.looksAround : Condition → Bool
  | .hasTag _ _ | .anySourceName _ | .anySourceUrl _ | .inSeries => true
  | _ => false

/-- The conditions in the order in which a row is tried against them. -/
def trialOrder (conditions : List Condition) : List Condition :=
  conditions.filter (!·.looksAround) ++ conditions.filter (·.looksAround)

/-- The expression of a condition that the index cannot read. -/
def Condition.unreadable? : Condition → Option FullText.Match
  | .fullText words =>
      (FullText.Match.ofWords? words).filter fun condition =>
        (FullText.Expression.read? condition.expression).isNone
  | _ => none

/-- Tries alternatives one after the other until one holds.  An alternative with
a pattern that is too long cannot be tried. -/
def tryAny (holds : String → Bool) : List String → Except Refusal Bool
  | [] => .ok false
  | pattern :: rest =>
      if isLongPattern pattern then .error .longPattern
      else if holds pattern then .ok true
      else tryAny holds rest

/-- Tries a row against one condition. -/
def Condition.attempt (store : Store) (archive : Archive) (condition : Condition) :
    Except Refusal Bool :=
  match condition with
  | .hasTag scope pattern =>
      let met :=
        if Query.isGeneric scope then store.links.any fun link => link.archive = archive.id
        else store.tags.any fun tag => tag.scope = scope
      if isLongPattern pattern && met then .error .longPattern
      else .ok (condition.holds store archive)
  | .language pattern =>
      if isLongPattern pattern then .error .longPattern
      else .ok (condition.holds store archive)
  | .anySourceName patterns =>
      if (store.sourcesOf archive.id).isEmpty then .ok false
      else
        tryAny (fun pattern =>
          (store.sourcesOf archive.id).any fun source => Text.like pattern source.name) patterns
  | .anySourceUrl texts =>
      if (store.sourcesOf archive.id).isEmpty then .ok false
      else
        tryAny (fun pattern =>
          (store.sourcesOf archive.id).any fun source => Store.likeOption pattern source.url)
          (texts.map urlPattern)
  | _ =>
      if condition.unreadable?.isSome then .error .malformedExpression
      else .ok (condition.holds store archive)

/-- Tries a row against conditions until one of them fails. -/
def tryAll (store : Store) (archive : Archive) : List Condition → Except Refusal Bool
  | [] => .ok true
  | condition :: rest =>
      match condition.attempt store archive with
      | .error refusal => .error refusal
      | .ok false => .ok false
      | .ok true => tryAll store archive rest

/-- The refusal that the trial of one row ends with, if any. -/
def rowRefusal? (plan : Plan) (store : Store) (archive : Archive) : Option Refusal :=
  match tryAll store archive (trialOrder plan.conditions) with
  | .error refusal => some refusal
  | .ok _ => none

/-- Whether some list of ids is empty, so that no row is tried at all. -/
def selectsNothing (plan : Plan) : Bool :=
  plan.conditions.contains (.idIn [])

/-- Whether rows are found by a condition rather than through the index: by a list
of ids that is no longer than what a database expects the index to find. -/
def Condition.findsRows : Condition → Bool
  | .idIn ids => ids.length ≤ expectedMatches
  | _ => false

/-- Whether the index is asked before any row: rows are then found through the
index rather than by their ids. -/
def startsAtIndex (plan : Plan) : Bool :=
  !plan.conditions.any Condition.findsRows

/-- Whether a condition wants rows given by an expression that cannot be read. -/
def Condition.wantsUnreadable (condition : Condition) : Bool :=
  match condition.unreadable? with
  | some (.matching _) => true
  | _ => false

/-- Whether some wanted rows are given by an expression that cannot be read. -/
def wantsUnreadable (plan : Plan) : Bool :=
  plan.conditions.any Condition.wantsUnreadable

/-- Why a database refuses to evaluate a plan, if it does. -/
def refusal? (plan : Plan) (database : Database) : Option Refusal :=
  match database.refusal? plan.tables with
  | some refusal => some refusal
  | none =>
      if tableLimit < plan.joins.length + 1 then some .tooManyTables
      else if nestingLimit < plan.nesting then some .tooDeep
      else if plan.selectsNothing then none
      else if plan.startsAtIndex && plan.wantsUnreadable then some .malformedExpression
      else database.store.archives.findSome? (plan.rowRefusal? database.store)

/-- The rows that a database answers with. -/
def evaluate (plan : Plan) (database : Database) : Except Refusal (List (Int64 × String)) :=
  match plan.refusal? database with
  | some refusal => .error refusal
  | none => .ok (plan.rows database.store)

end Plan

end Gallery
