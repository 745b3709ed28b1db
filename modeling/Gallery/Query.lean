import Gallery.Query.NumberToken
import Gallery.Query.TitleWords

namespace Gallery

/-!
# Queries

A query is one line of text.  It is scanned twice: first for tag tokens, then,
with a blank in place of each of them, for number tokens, so the value of a tag
token is never taken for a number filter.  The rest are words of the title.
Every line is a query: tokens that mean nothing are left out.
-/

/-- What a query asks for. -/
structure Query where
  tags : List Query.TagFilter := []
  numbers : List Query.NumberFilter := []
  languages : List String := []
  sources : List String := []
  urls : List String := []
  title : Query.TitleWords := {}
deriving DecidableEq, Repr

namespace Query

/-- The line scanned for tag tokens. -/
def tagPieces (line : List Char) : List (Piece TagToken) :=
  scan TagToken.recognise line

/-- The line scanned for number tokens where no tag token stands. -/
def numberPieces (line : List Char) : List (Piece NumberToken) :=
  scan NumberToken.recognise (residue (tagPieces line))

/-- Reads a line of characters. -/
def ofChars (line : List Char) : Query :=
  let tagTokens := tokens (tagPieces line)
  {
    tags := tagTokens.filterMap TagToken.tagFilter?
    numbers := NumberFilter.lastPerSubject
      ((tokens (numberPieces line)).filterMap NumberToken.numberFilter?)
    languages := tagTokens.filterMap TagToken.language?
    sources := tagTokens.filterMap TagToken.source?
    urls := tagTokens.filterMap TagToken.url?
    title := TitleWords.ofText (residue (numberPieces line)) }

/-- Reads a query. -/
def parse (line : String) : Query :=
  ofChars line.toList

/-- The filter on the given subject, if the query has one. -/
def numberFor (query : Query) (subject : Subject) : Option NumberFilter :=
  query.numbers.find? fun filter => filter.subject = subject

end Query

end Gallery
