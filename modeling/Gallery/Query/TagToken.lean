import Gallery.Query.Scan
import Gallery.Text.Blank
import Gallery.Text.Lowercase
import Gallery.Web.Authority

namespace Gallery
namespace Query

/-!
# Tag tokens

A tag token is a scope and a value with a colon between them, such as
`artist:jane` or `-tag:"two words"`.  A few scopes are reserved: they filter by
language, source or address instead of by tag, or mean nothing at all.
-/

/-- How a tag filter takes part in a search.  Excluded tags must be absent, and
of the optional ones at least one must be present. -/
inductive Role where
  | required
  | excluded
  | optional
deriving DecidableEq, Repr

/-- A filter on the tags of an archive.  The pattern may hold wildcards. -/
structure TagFilter where
  scope : String
  pattern : String
  role : Role
deriving DecidableEq, Repr

/-- The scope that stands for tags of any namespace. -/
def genericScope : String := "tag"

/-- Whether a scope stands for tags of any namespace. -/
def isGeneric (scope : String) : Bool :=
  Text.lowerAscii scope = genericScope

/-- The scopes that are never namespaces of tags. -/
def reservedScopes : List String :=
  ["source", "sources", "url", "language", "size", "tags"]

/-- Whether a scope is reserved, in any case of its letters. -/
def isReserved (scope : String) : Bool :=
  reservedScopes.contains (Text.lowerAscii scope)

/-- A tag token as written: its sign, its scope, and its value with quotes. -/
structure TagToken where
  role : Role
  scope : List Char
  value : List Char
deriving DecidableEq, Repr

namespace TagToken

/-- The role that the sign in front of a token gives it, the number of characters
of the sign, and what follows. -/
def sign : List Char → Role × Nat × List Char
  | '-' :: rest => (.excluded, 1, rest)
  | '~' :: rest => (.optional, 1, rest)
  | rest => (.required, 0, rest)

/-- The value at the start of a line: a phrase in quotes, if the line begins
with one that is closed, and otherwise all characters up to a blank. -/
def valueOf (line : List Char) : List Char :=
  match line with
  | '"' :: rest =>
      if rest.contains '"' then '"' :: (rest.takeWhile (· ≠ '"') ++ ['"'])
      else line.takeWhile (!Text.isBlank ·)
  | _ => line.takeWhile (!Text.isBlank ·)

/-- The tag token at the start of a line, with the number of its characters
after the first. -/
def recognise (line : List Char) : Option (TagToken × Nat) :=
  let (role, signLength, afterSign) := sign line
  let scope := afterSign.takeWhile Text.isWordChar
  if scope.isEmpty then none
  else
    match afterSign.dropWhile Text.isWordChar with
    | ':' :: rest =>
        let value := valueOf rest
        if value.isEmpty then none
        else some (⟨role, scope, value⟩, signLength + scope.length + value.length)
    | _ => none

/-- The scope as text. -/
def scopeText (token : TagToken) : String :=
  String.ofList token.scope

/-- The value without quotes. -/
def unquoted (token : TagToken) : List Char :=
  token.value.filter (· ≠ '"')

/-- The value without quotes and dollar signs. -/
def plain (token : TagToken) : List Char :=
  token.unquoted.filter (· ≠ '$')

/-- The value of a token of the given reserved scope, if it has one. -/
def reserved? (scope : String) (token : TagToken) : Option String :=
  if Text.lowerAscii token.scopeText = scope && !token.plain.isEmpty then
    some (String.ofList token.plain)
  else none

/-- The language that a token asks for. -/
def language? (token : TagToken) : Option String :=
  token.reserved? "language"

/-- The source that a token asks for. -/
def source? (token : TagToken) : Option String :=
  token.reserved? "source"

/-- The address that a token asks for, if it could be one. -/
def url? (token : TagToken) : Option String :=
  (token.reserved? "url").filter fun value => Web.Authority.isPlausible value.toList

/-- The pattern of a value: a star is a wildcard, and a value that does not end
in a dollar sign may go on. -/
def patternOf (value : List Char) : List Char :=
  let name := (value.filter (· ≠ '$')).map fun c => if c = '*' then '%' else c
  if value.getLast? = some '$' then name else name ++ ['%']

/-- The tag filter that a token stands for.  A value of wildcards alone asks for
nothing. -/
def tagFilter? (token : TagToken) : Option TagFilter :=
  if isReserved token.scopeText then none
  else if token.plain.all (fun c => c = '*' || c = '%') then none
  else
    some {
      scope := token.scopeText
      pattern := String.ofList (patternOf token.unquoted)
      role := token.role }

end TagToken

namespace TagFilter

/-- The filter that a blacklist entry stands for: a scope and a pattern with a
colon between them, or a pattern alone.  The pattern is taken as written. -/
def ofBlacklistEntry? (entry : String) : Option TagFilter :=
  let text := Text.trim entry.toList
  let scope := text.takeWhile (· ≠ ':')
  let (scope, pattern) :=
    match text.dropWhile (· ≠ ':') with
    | ':' :: pattern => if scope.isEmpty then (genericScope, text) else (String.ofList scope, pattern)
    | _ => (genericScope, text)
  if pattern.isEmpty then none
  else some { scope := scope, pattern := String.ofList pattern, role := .excluded }

end TagFilter

end Query
end Gallery
