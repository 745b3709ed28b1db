import Gallery.Query.TitleWords

namespace Gallery
namespace FullText

/-!
# Clauses of a title search

Title words become the terms of a full-text engine one by one; a word of which
nothing is left drops out.  What remains keeps its role and its place.
-/

/-- The terms of a title search, sorted by their roles. -/
structure Clauses (α : Type) where
  required : List α
  optional : List α
  excluded : List α

namespace Clauses

/-- The terms that `term?` makes of title words. -/
def ofWords {α : Type} (term? : List Char → Option α) (words : Query.TitleWords) : Clauses α where
  required := words.required.filterMap fun word => term? word.toList
  optional := words.optional.filterMap fun word => term? word.toList
  excluded := words.excluded.filterMap fun word => term? word.toList

/-- Whether no term is left. -/
def isEmpty {α : Type} (clauses : Clauses α) : Bool :=
  clauses.required.isEmpty && clauses.optional.isEmpty && clauses.excluded.isEmpty

end Clauses

/-- The parts with a separator between them. -/
def join (separator : String) (parts : List (List Char)) : List Char :=
  List.intercalate separator.toList parts

/-- A part in parentheses. -/
def parenthesize (part : List Char) : List Char :=
  '(' :: (part ++ [')'])

end FullText
end Gallery
