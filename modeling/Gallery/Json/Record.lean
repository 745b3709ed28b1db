import Gallery.Json.Basic

namespace Gallery
namespace Json

/-!
# Records

A record is given as an object, whose unknown members are ignored, or as an
array of its fields in declaration order.  A known field may not be repeated,
and every key must be readable.  The two forms differ in what a missing field
means: an object omits a field, while an array ends before it.
-/

/-- What the source of a record says about one field. -/
inductive Slot where
  | given (value : Json)
  | omitted
  | beyond

namespace Slot

/-- A field that has to be given. -/
def required {α : Type} (decode : Json → Option α) : Slot → Option α
  | .given value => decode value
  | _ => none

/-- A field that takes `default` when it is missing in either form. -/
def withDefault {α : Type} (default : α) (decode : Json → Option α) : Slot → Option α
  | .given value => decode value
  | _ => some default

/-- A field that may be null or omitted, but not cut off. -/
def optional {α : Type} (decode : Json → Option α) : Slot → Option (Option α)
  | .given value => option? decode value
  | .omitted => some none
  | .beyond => none

end Slot

/-- The fields of a record by name. -/
structure Record where
  slots : List (String × Slot)

namespace Record

/-- The field of the given name. -/
def field (r : Record) (name : String) : Slot :=
  (r.slots.lookup name).getD .omitted

/-- The slot of a field among the members of an object. -/
def named (members : List (String × Json)) (name : String) : Slot :=
  match members.lookup name with
  | some value => .given value
  | none => .omitted

/-- Whether no known name occurs twice among the keys. -/
def distinct (names keys : List String) : Bool :=
  names.all fun name => keys.count name ≤ 1

/-- The members of an object, if every key is readable. -/
def readable (members : List (Option String × Json)) : Option (List (String × Json)) :=
  members.mapM fun member => member.1.map fun key => (key, member.2)

/-- Fields in declaration order, as far as there are items. -/
def positional : List String → List Json → List (String × Slot)
  | [], _ => []
  | name :: names, item :: items => (name, .given item) :: positional names items
  | name :: names, [] => (name, .beyond) :: positional names []

/-- Reads a record with the given field names. -/
def ofJson? (names : List String) : Json → Option Record
  | .object members =>
      (readable members).bind fun members =>
        if distinct names (members.map Prod.fst) then
          some { slots := names.map fun name => (name, named members name) }
        else none
  | .array items =>
      if items.length ≤ names.length then some { slots := positional names items } else none
  | _ => none

end Record

/-- Reads one of finitely many named values, given by its name alone or as the
single key of an object whose value is null. -/
def unit? {α : Type} (ofName : String → Option α) : Json → Option α
  | .string name => ofName name
  | .object [(some name, .null)] => ofName name
  | _ => none

end Json
end Gallery
