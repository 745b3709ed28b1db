import Gallery.FullText.Clauses
import Gallery.Text.Letter
import Gallery.Text.Lowercase
import Gallery.Text.Split

namespace Gallery
namespace FullText
namespace Lexemes

/-!
# Queries over lexemes

PostgreSQL reads a query as lexemes joined by operators: `<->` demands that two
phrases follow each other, and `&`, `|` and `!` are the usual connectives.  A
word is made small, loses every character that is an operator, and is taken
apart at apostrophes; the parts that hold a letter or a number follow each
other.  Without any word left there is no query.
-/

/-- Characters with a meaning of their own in a query. -/
def operators : List Char :=
  ['&', '|', '!', '(', ')', '<', '>', ':', '*', '\\', '"']

/-- Whether the character is an apostrophe. -/
def isApostrophe (c : Char) : Bool :=
  c = '\'' || c = '\u2019'

/-- The lexemes of a word. -/
def ofWord (word : List Char) : List (List Char) :=
  let cleaned := (Text.lower word).filter fun c => !operators.contains c && !Text.isBlank c
  (Text.split isApostrophe cleaned).filter fun part => part.any Text.isAlphanumeric

/-- The term of a word: its lexemes as a phrase. -/
def term? (word : List Char) : Option (List Char) :=
  let lexemes := ofWord word
  if lexemes.isEmpty then none else some (join " <-> " lexemes)

/-- The clauses of a query that are not empty, in order. -/
def clauseTexts (clauses : Clauses (List Char)) : List (List Char) :=
  (if clauses.required.isEmpty then [] else [join " <-> " clauses.required]) ++
  (if clauses.optional.isEmpty then [] else [parenthesize (join " | " clauses.optional)]) ++
  (if clauses.excluded.isEmpty then []
   else ['!' :: parenthesize (join " | " clauses.excluded)])

/-- The query for title words. -/
def query? (words : Query.TitleWords) : Option String :=
  let texts := clauseTexts (Clauses.ofWords term? words)
  if texts.isEmpty then none else some (String.ofList (join " & " texts))

end Lexemes
end FullText
end Gallery
