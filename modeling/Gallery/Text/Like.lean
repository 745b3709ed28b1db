import Gallery.Text.Collation

namespace Gallery
namespace Text

/-!
# Patterns with wildcards

In a pattern a percent sign stands for any run of characters and an underscore
for any one character; other characters stand for themselves up to the case of
ASCII letters.  Patterns and texts end at a null character.

The matcher keeps the list of all ends of the text that the part of the pattern
read so far can leave over.  The longest of them stands first, so a percent sign
simply replaces the list by all ends of its first member.
-/

namespace Like

/-- All ends of a text, the longest first. -/
def ends : List Char → List (List Char)
  | [] => [[]]
  | c :: text => (c :: text) :: ends text

/-- A character as a pattern or a text is read: the two that are not characters
at the end of the first plane stand for the replacement character. -/
def readChar (c : Char) : Char :=
  if c = '\uFFFE' || c = '\uFFFF' then '\uFFFD' else c

/-- Whether a character of a pattern that is no percent sign stands for a
character of a text. -/
def accepts (p c : Char) : Bool :=
  p = '_' || (readChar p).toLower = (readChar c).toLower

/-- What is left of a text after its first character, if that is accepted. -/
def step? (p : Char) : List Char → Option (List Char)
  | [] => none
  | c :: text => if accepts p c then some text else none

/-- The ends that are left after one more character of the pattern. -/
def advance (left : List (List Char)) (p : Char) : List (List Char) :=
  if p = '%' then
    match left with
    | [] => []
    | longest :: _ => ends longest
  else left.filterMap (step? p)

/-- Whether a pattern matches the whole of a text. -/
def matchesChars (pattern text : List Char) : Bool :=
  (pattern.foldl advance [text]).any List.isEmpty

end Like

/-- Whether a pattern matches a text. -/
def like (pattern text : String) : Bool :=
  Like.matchesChars (untilNull pattern.toList) (untilNull text.toList)

end Text
end Gallery
