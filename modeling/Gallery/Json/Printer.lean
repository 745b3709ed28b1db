import Gallery.Json.Token

namespace Gallery
namespace Json

/-!
# Writing a value

The compact form spells the tokens of a value without blanks.  The pretty form
puts every item and every member on a line of its own, indented by two blanks
for each level, and keeps empty arrays and objects on one line.  Both forms
have the same tokens.
-/

/-- The decimal form of an integer. -/
def decimal (n : Int) : List Char :=
  if n < 0 then '-' :: Nat.toDigits 10 n.natAbs else Nat.toDigits 10 n.natAbs

/-- A string of which no text can be made. -/
def garbledText : List Char :=
  ['"', '\\', 'u', 'd', '8', '0', '0', '"']

/-- The written form of a key. -/
def spellKey : Option String → List Char
  | some key => Quoted.quote key.toList
  | none => garbledText

mutual

/-- The compact form of a value. -/
def compact : Json → List Char
  | .null => ['n', 'u', 'l', 'l']
  | .bool true => ['t', 'r', 'u', 'e']
  | .bool false => ['f', 'a', 'l', 's', 'e']
  | .integer n => decimal n
  | .real literal => literal.toList
  | .string text => Quoted.quote text.toList
  | .garbled => garbledText
  | .array items => '[' :: (compactItems items ++ [']'])
  | .object members => '\x7b' :: (compactMembers members ++ ['\x7d'])

/-- The items of an array, separated by commas. -/
def compactItems : List Json → List Char
  | [] => []
  | [item] => compact item
  | item :: rest => compact item ++ ',' :: compactItems rest

/-- The members of an object, separated by commas. -/
def compactMembers : List (Option String × Json) → List Char
  | [] => []
  | [(key, value)] => spellKey key ++ ':' :: compact value
  | (key, value) :: rest => spellKey key ++ ':' :: (compact value ++ ',' :: compactMembers rest)

end

/-- A new line, indented for the given depth. -/
def newLine (depth : Nat) : List Char :=
  '\n' :: List.replicate (2 * depth) ' '

mutual

/-- The pretty form of a value that stands at the given depth. -/
def prettyAt (depth : Nat) : Json → List Char
  | .null => ['n', 'u', 'l', 'l']
  | .bool true => ['t', 'r', 'u', 'e']
  | .bool false => ['f', 'a', 'l', 's', 'e']
  | .integer n => decimal n
  | .real literal => literal.toList
  | .string text => Quoted.quote text.toList
  | .garbled => garbledText
  | .array [] => ['[', ']']
  | .array (item :: rest) =>
      '[' :: (newLine (depth + 1) ++ prettyAt (depth + 1) item ++ prettyItems (depth + 1) rest ++
        newLine depth ++ [']'])
  | .object [] => ['\x7b', '\x7d']
  | .object ((key, value) :: rest) =>
      '\x7b' :: (newLine (depth + 1) ++ spellKey key ++ [':', ' '] ++ prettyAt (depth + 1) value ++
        prettyMembers (depth + 1) rest ++ newLine depth ++ ['\x7d'])

/-- Further items of an array at the given depth. -/
def prettyItems (depth : Nat) : List Json → List Char
  | [] => []
  | item :: rest => ',' :: (newLine depth ++ prettyAt depth item ++ prettyItems depth rest)

/-- Further members of an object at the given depth. -/
def prettyMembers (depth : Nat) : List (Option String × Json) → List Char
  | [] => []
  | (key, value) :: rest =>
      ',' :: (newLine depth ++ spellKey key ++ [':', ' '] ++ prettyAt depth value ++
        prettyMembers depth rest)

end

/-- The compact text of a value. -/
def toCompact (value : Json) : String :=
  String.ofList (compact value)

/-- The pretty text of a value. -/
def toPretty (value : Json) : String :=
  String.ofList (prettyAt 0 value)

end Json
end Gallery
