import Gallery.Text.Numeral

namespace Gallery

/-!
# JSON values

The value type keeps what the readers of records have to tell apart.  An
integer and a real number are different values, since no integer field accepts
a mark or an exponent, and `-0` counts as real.  A string with a surrogate that
has no partner is grammatical and names no text; it is kept as `garbled`, so
that a value that nobody looks at may contain it.
-/

/-- A JSON value.  The members of an object stand in the order of the text and
may repeat a key; a garbled key is `none`. -/
inductive Json where
  | null
  | bool (value : Bool)
  | integer (value : Int)
  | real (literal : String)
  | string (text : String)
  | garbled
  | array (items : List Json)
  | object (members : List (Option String × Json))

namespace Json

/-- An object with readable keys. -/
def record (members : List (String × Json)) : Json :=
  .object (members.map fun member => (some member.1, member.2))

/-- A value that may be missing, which is written as null. -/
def option {α : Type} (encode : α → Json) : Option α → Json
  | some value => encode value
  | none => .null

/-- A list of values of one kind. -/
def list {α : Type} (encode : α → Json) (items : List α) : Json :=
  .array (items.map encode)

/-- A signed 64-bit number. -/
def int64 (n : Int64) : Json :=
  .integer n.toInt

/-- An unsigned 64-bit number. -/
def uint64 (n : UInt64) : Json :=
  .integer n.toNat

/-- The text of a string value. -/
def text? : Json → Option String
  | .string text => some text
  | _ => none

/-- The truth value of a boolean. -/
def bool? : Json → Option Bool
  | .bool value => some value
  | _ => none

/-- The value of an integer. -/
def integer? : Json → Option Int
  | .integer value => some value
  | _ => none

/-- The value of a signed 64-bit integer. -/
def int64? (value : Json) : Option Int64 :=
  value.integer?.bind Text.Numeral.int64?

/-- The value of an unsigned 64-bit integer. -/
def uint64? (value : Json) : Option UInt64 :=
  value.integer?.bind Text.Numeral.uint64?

/-- The value of an unsigned 32-bit integer. -/
def uint32? (value : Json) : Option UInt32 :=
  value.integer?.bind Text.Numeral.uint32?

/-- The value of an unsigned 16-bit integer. -/
def uint16? (value : Json) : Option UInt16 :=
  value.integer?.bind Text.Numeral.uint16?

/-- Reads every item of an array by `decode`. -/
def list? {α : Type} (decode : Json → Option α) : Json → Option (List α)
  | .array items => items.mapM decode
  | _ => none

/-- Reads null as absence and everything else by `decode`. -/
def option? {α : Type} (decode : Json → Option α) : Json → Option (Option α)
  | .null => some none
  | value => (decode value).map some

end Json

end Gallery
