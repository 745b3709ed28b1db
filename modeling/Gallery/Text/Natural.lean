import Gallery.Text.Blank
import Gallery.Text.Collation
import Gallery.Text.Lowercase

namespace Gallery
namespace Text
namespace Natural

/-!
# Natural order

Titles are compared as people number them: `vol 2` comes before `Vol 10`.  A
text becomes a list of pieces, in which a run of digits is one piece, letters
are small, and blanks are absent except that they end a run.  Runs that begin
with a zero are compared from the left like fractions, and all others as
numbers; a text that is continued comes after the one that is not.
-/

/-- A piece of a text: a run of ASCII digits or another character. -/
inductive Piece where
  | digits (run : List Char)
  | char (c : Char)
deriving DecidableEq, Repr

/-- Whether the character is an ASCII digit. -/
def isDigit (c : Char) : Bool :=
  '0' ≤ c && c ≤ '9'

/-- Puts the run that has been read backwards, if there is one, in front of
later pieces. -/
def closeRun (run : List Char) (later : List Piece) : List Piece :=
  if run.isEmpty then later else .digits run.reverse :: later

/-- The pieces of a text after the run that is being read backwards. -/
def piecesFrom : List Char → List Char → List Piece
  | run, [] => closeRun run []
  | run, c :: text =>
      if isDigit c then piecesFrom (c :: run) text
      else if isBlank c then closeRun run (piecesFrom [] text)
      else closeRun run (.char c :: piecesFrom [] text)

/-- The pieces of a title. -/
def pieces (title : String) : List Piece :=
  piecesFrom [] (lowerEach title.toList)

/-- Whether a run begins with a zero. -/
def startsWithZero (run : List Char) : Bool :=
  run.head? = some '0'

/-- The order of two runs of digits. -/
def compareRuns (a b : List Char) : Ordering :=
  if startsWithZero a || startsWithZero b then compareChars a b
  else (compare a.length b.length).then (compareChars a b)

/-- The character with which a piece begins. -/
def Piece.firstChar : Piece → Char
  | .digits run => run.headD '0'
  | .char c => c

/-- The order of two pieces. -/
def comparePieces : Piece → Piece → Ordering
  | .digits a, .digits b => compareRuns a b
  | a, b => compare a.firstChar.toNat b.firstChar.toNat

/-- The order of two lists of pieces, from the left. -/
def compareLists : List Piece → List Piece → Ordering
  | [], [] => .eq
  | [], _ :: _ => .lt
  | _ :: _, [] => .gt
  | a :: as, b :: bs => (comparePieces a b).then (compareLists as bs)

end Natural

/-- The natural order of two titles. -/
def compareNaturally (a b : String) : Ordering :=
  Natural.compareLists (Natural.pieces a) (Natural.pieces b)

end Text
end Gallery
