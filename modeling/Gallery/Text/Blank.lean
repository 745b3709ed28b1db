import Gallery.Text.CodeSet

namespace Gallery
namespace Text

/-!
# Blank characters, trimming and words

A blank is a character of the Unicode property White_Space.  Words are the
maximal runs of other characters, so a text is determined up to its blanks by
its words.
-/

/-- The blank characters. -/
def blanks : CodeSet where
  edges := [
    0x9, 0xE, 0x20, 0x21, 0x85, 0x86, 0xA0, 0xA1, 0x1680, 0x1681, 0x2000, 0x200B,
    0x2028, 0x202A, 0x202F, 0x2030, 0x205F, 0x2060, 0x3000, 0x3001]

/-- Whether the character has the property White_Space. -/
def isBlank (c : Char) : Bool :=
  blanks.contains c

/-- The text without the blanks at its start. -/
def trimStart (text : List Char) : List Char :=
  text.dropWhile isBlank

/-- The text without the blanks at its end. -/
def trimEnd (text : List Char) : List Char :=
  (text.reverse.dropWhile isBlank).reverse

/-- The text without the blanks at either end. -/
def trim (text : List Char) : List Char :=
  trimEnd (trimStart text)

/-- The words that remain when `word`, spelled backwards, has been read and
`text` is still to come. -/
def wordsFrom : List Char → List Char → List (List Char)
  | word, [] => if word.isEmpty then [] else [word.reverse]
  | word, c :: text =>
      if isBlank c then
        if word.isEmpty then wordsFrom [] text
        else word.reverse :: wordsFrom [] text
      else wordsFrom (c :: word) text

/-- The maximal runs of characters that are not blank, in order. -/
def words (text : List Char) : List (List Char) :=
  wordsFrom [] text

end Text
end Gallery
