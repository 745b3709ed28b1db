import Gallery.Json.Printer
import Gallery.Sql.Dialect

namespace Gallery
namespace Sql

/-!
# Statements

A statement is a list of fragments.  Text of the statement and values from
outside are different fragments, so a value can only become a bind: rendering
writes a placeholder for it and numbers the placeholders in order.
-/

/-- A value bound to a placeholder. -/
inductive Bind where
  | int (value : Int64)
  | text (value : String)
deriving DecidableEq, Repr

/-- A fragment of a statement. -/
inductive Fragment where
  | raw (sql : String)
  | bind (value : Bind)
  | like
  | tagList
deriving DecidableEq, Repr

/-- A statement in a dialect, with its binds in order. -/
structure Rendered where
  dialect : Dialect
  sql : String
  binds : List Bind
deriving DecidableEq, Repr

namespace Fragment

/-- The value of a bind. -/
def bind? : Fragment → Option Bind
  | .bind value => some value
  | _ => none

/-- The text of a fragment when the next placeholder has the given number. -/
def spell (dialect : Dialect) (number : Nat) : Fragment → String
  | .raw sql => sql
  | .bind _ => dialect.placeholder number
  | .like => dialect.likeOperator
  | .tagList => dialect.tagList

/-- The texts of fragments when the next placeholder has the given number. -/
def spellFrom (dialect : Dialect) : Nat → List Fragment → List String
  | _, [] => []
  | number, fragment :: rest =>
      fragment.spell dialect number ::
        spellFrom dialect (if fragment.bind?.isSome then number + 1 else number) rest

end Fragment

/-- Writes a statement in a dialect. -/
def render (dialect : Dialect) (fragments : List Fragment) : Rendered where
  dialect := dialect
  sql := String.join (Fragment.spellFrom dialect 1 fragments)
  binds := fragments.filterMap Fragment.bind?

/-- A bound text. -/
def textBind (value : String) : Fragment :=
  .bind (.text value)

/-- A bound number. -/
def intBind (value : Int64) : Fragment :=
  .bind (.int value)

/-- A list of ids.  Ids are numbers, so they are written out. -/
def idList (ids : List Int64) : Fragment :=
  .raw (String.ofList
    ('(' :: (FullText.join ", " (ids.map fun id => Json.decimal id.toInt) ++ [')'])))

end Sql
end Gallery
