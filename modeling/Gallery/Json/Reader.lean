import Gallery.Json.Token

namespace Gallery
namespace Json

/-!
# Reading a value

The reader is a machine with a stack of unfinished arrays and objects.  It
takes one token at a time and never recurses into a value, so a value may be
nested to any depth.  A text is a value when the machine ends with a finished
value and an empty stack.
-/

/-- An unfinished array or object around the value being read.  Items and
members are kept backwards. -/
inductive Frame where
  | array (items : List Json)
  | object (members : List (Option String × Json)) (key : Option String)

/-- What the reader waits for. -/
inductive Reader where
  /-- A value. -/
  | needValue (stack : List Frame)
  /-- The first item of an array, or its end. -/
  | firstItem (stack : List Frame)
  /-- The first key of an object, or its end. -/
  | firstKey (stack : List Frame)
  /-- The key after a comma. -/
  | needKey (members : List (Option String × Json)) (stack : List Frame)
  /-- The colon after a key. -/
  | needColon (members : List (Option String × Json)) (key : Option String) (stack : List Frame)
  /-- What follows a finished value. -/
  | finished (value : Json) (stack : List Frame)

namespace Reader

/-- The value of a string token. -/
def ofText : Option String → Json
  | some text => .string text
  | none => .garbled

/-- A token at the place of a value. -/
def startValue (stack : List Frame) : Token → Option Reader
  | .openArray => some (.firstItem stack)
  | .openObject => some (.firstKey stack)
  | .string text => some (.finished (ofText text) stack)
  | .literal value => some (.finished value stack)
  | _ => none

/-- A token after a finished value: a comma goes on with the innermost frame,
and the matching bracket finishes it. -/
def afterValue (value : Json) : List Frame → Token → Option Reader
  | .array items :: stack, .comma => some (.needValue (.array (value :: items) :: stack))
  | .array items :: stack, .closeArray =>
      some (.finished (.array (value :: items).reverse) stack)
  | .object members key :: stack, .comma => some (.needKey ((key, value) :: members) stack)
  | .object members key :: stack, .closeObject =>
      some (.finished (.object ((key, value) :: members).reverse) stack)
  | _, _ => none

/-- One step of the reader. -/
def step : Reader → Token → Option Reader
  | .needValue stack, token => startValue stack token
  | .firstItem stack, .closeArray => some (.finished (.array []) stack)
  | .firstItem stack, token => startValue (.array [] :: stack) token
  | .firstKey stack, .closeObject => some (.finished (.object []) stack)
  | .firstKey stack, .string key => some (.needColon [] key stack)
  | .firstKey _, _ => none
  | .needKey members stack, .string key => some (.needColon members key stack)
  | .needKey _ _, _ => none
  | .needColon members key stack, .colon => some (.needValue (.object members key :: stack))
  | .needColon _ _ _, _ => none
  | .finished value stack, token => afterValue value stack token

/-- The reader after a list of tokens. -/
def run : Reader → List Token → Option Reader
  | reader, [] => some reader
  | reader, token :: tokens =>
      match step reader token with
      | some next => run next tokens
      | none => none

end Reader

/-- The value that a list of tokens spells. -/
def ofTokens? (tokens : List Token) : Option Json :=
  match Reader.run (.needValue []) tokens with
  | some (.finished value []) => some value
  | _ => none

/-- Reads a text that holds one value with blanks around it. -/
def read? (text : List Char) : Option Json :=
  (Token.scan text).bind ofTokens?

end Json
end Gallery
