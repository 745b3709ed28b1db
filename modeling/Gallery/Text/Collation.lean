import Gallery.Text.Utf8

namespace Gallery
namespace Text

/-!
# Orders of texts

Texts are ordered by their characters, which is also the order of their octets.
The order that ignores case folds the letters of ASCII and nothing else.  It
looks at a text only up to a null character, and after that at the length alone.
-/

/-- The order of two lists of characters, from the left. -/
def compareChars : List Char → List Char → Ordering
  | [], [] => .eq
  | [], _ :: _ => .lt
  | _ :: _, [] => .gt
  | a :: as, b :: bs => (compare a.toNat b.toNat).then (compareChars as bs)

/-- The order of two texts. -/
def compareText (a b : String) : Ordering :=
  compareChars a.toList b.toList

/-- The characters of a text up to the first null character. -/
def untilNull (text : List Char) : List Char :=
  text.takeWhile (· ≠ '\x00')

/-- The characters that the order without case compares. -/
def foldedPart (text : String) : List Char :=
  (untilNull text.toList).map Char.toLower

/-- The order of two texts without regard to the case of ASCII letters. -/
def compareNoCase (a b : String) : Ordering :=
  (compareChars (foldedPart a) (foldedPart b)).then
    (compare (Utf8.encode a.toList).length (Utf8.encode b.toList).length)

end Text
end Gallery
