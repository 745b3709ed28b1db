import Gallery.FullText.Clauses
import Gallery.Text.Letter

namespace Gallery
namespace FullText

/-!
# Match expressions

SQLite reads a match expression as quoted strings joined by `AND`, `OR` and
`NOT`, where `NOT` has two operands.  A search with excluded words alone
therefore matches the excluded words and is used to leave rows out.  A word is
searched for when it holds a letter or a number.
-/

/-- A match expression, and whether its rows are wanted or left out. -/
inductive Match where
  | matching (expression : String)
  | excluding (expression : String)
deriving DecidableEq, Repr

namespace Match

/-- A string literal of an expression: a quote inside it is doubled. -/
def quote (word : List Char) : List Char :=
  '"' :: (word.flatMap (fun c => if c = '"' then ['"', '"'] else [c]) ++ ['"'])

/-- The term of a word: the word without blanks around it, quoted. -/
def term? (word : List Char) : Option (List Char) :=
  let trimmed := Text.trim word
  if trimmed.any Text.isAlphanumeric then some (quote trimmed) else none

/-- The expression for the wanted words, without the excluded ones. -/
def wantedText (clauses : Clauses (List Char)) : List Char :=
  join " AND " (clauses.required ++
    if clauses.optional.isEmpty then [] else [parenthesize (join " OR " clauses.optional)])

/-- The expression that any excluded word satisfies. -/
def excludedText (clauses : Clauses (List Char)) : List Char :=
  parenthesize (join " OR " clauses.excluded)

/-- The match for the clauses of a search. -/
def ofClauses? (clauses : Clauses (List Char)) : Option Match :=
  if clauses.required.isEmpty && clauses.optional.isEmpty then
    if clauses.excluded.isEmpty then none
    else some (.excluding (String.ofList (excludedText clauses)))
  else if clauses.excluded.isEmpty then some (.matching (String.ofList (wantedText clauses)))
  else
    some (.matching
      (String.ofList (wantedText clauses ++ " NOT ".toList ++ excludedText clauses)))

/-- The match for title words. -/
def ofWords? (words : Query.TitleWords) : Option Match :=
  ofClauses? (Clauses.ofWords term? words)

/-- The expression of a match. -/
def expression : Match → String
  | matching expression => expression
  | excluding expression => expression

end Match

end FullText
end Gallery
