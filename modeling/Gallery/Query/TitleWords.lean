import Gallery.Text.Blank

namespace Gallery
namespace Query

/-!
# Words of the title

What is neither a tag token nor a number token is free text.  Its words are
searched for in titles, descriptions and tag names.  A tilde in front of a word
makes it optional and a hyphen excludes it; dollar signs have no meaning and
are dropped.
-/

/-- Free-text words, sorted by their roles. -/
structure TitleWords where
  required : List String := []
  optional : List String := []
  excluded : List String := []
deriving DecidableEq, Repr

namespace TitleWords

/-- Whether there is no word at all. -/
def isEmpty (words : TitleWords) : Bool :=
  words.required.isEmpty && words.optional.isEmpty && words.excluded.isEmpty

/-- A word without the sign in front of it, if it has the given one and is not
empty. -/
def signed? (sign : Char) : List Char → Option String
  | [] => none
  | c :: word => if c = sign && !word.isEmpty then some (String.ofList word) else none

/-- A word that has no sign. -/
def unsigned? : List Char → Option String
  | [] => none
  | c :: word => if c = '~' || c = '-' then none else some (String.ofList (c :: word))

/-- The words of free text. -/
def ofText (text : List Char) : TitleWords :=
  let words := (Text.words text).map fun word => word.filter (· ≠ '$')
  {
    required := words.filterMap unsigned?
    optional := words.filterMap (signed? '~')
    excluded := words.filterMap (signed? '-') }

end TitleWords

end Query
end Gallery
