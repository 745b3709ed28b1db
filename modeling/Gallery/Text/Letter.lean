import Gallery.Text.Letter.Classes

namespace Gallery
namespace Text

/-!
# Letters, digits and word characters

A word character is what may stand inside a name: letters, the marks that
combine with them, digits, connecting punctuation and the two joiners.  A
letter or number is what makes a word worth searching for.  The two classes
differ on both sides: a combining mark is a word character without being
alphanumeric, and a superscript two is a number without being a word character.
-/

/-- Letters and numbers: the property Alphabetic or the general category N. -/
def isAlphanumeric (c : Char) : Bool :=
  Letter.alphabetic.contains c || Letter.number.contains c

/-- Characters that may stand inside a word. -/
def isWordChar (c : Char) : Bool :=
  Letter.alphabetic.contains c || Letter.mark.contains c || Letter.decimalDigit.contains c ||
    Letter.connector.contains c || Letter.joinControl.contains c

/-- Decimal digits of every script. -/
def isDecimalDigit (c : Char) : Bool :=
  Letter.decimalDigit.contains c

end Text
end Gallery
