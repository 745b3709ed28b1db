import Gallery.Text.Letter

namespace Gallery
namespace Query

/-!
# Scanning a line for tokens

A scan walks along a line and asks a recogniser, at each place where a token may
begin, how a token there reads and how far it reaches.  The line becomes a list
of pieces, so the tokens and the text that is left over are two views of one
list and their order is never in doubt.  No token begins in the middle of a
word: the recognisers read a word as a whole, so if none is found at the start
of a word there is none further inside it.
-/

/-- A piece of a scanned line: a character that belongs to no token, or a token. -/
inductive Piece (α : Type) where
  | char (c : Char)
  | token (t : α)

namespace Piece

/-- The token of a piece, if it is one. -/
def token? {α : Type} : Piece α → Option α
  | .char _ => none
  | .token t => some t

/-- What a piece leaves of the line: its character, or a blank in place of a
token. -/
def residue {α : Type} : Piece α → Char
  | .char c => c
  | .token _ => ' '

end Piece

/-- Scans a line.  The first argument counts the characters that belong to the
token just found; the second tells whether the character before the line is a
word character. -/
def scanFrom {α : Type} (recognise : List Char → Option (α × Nat)) :
    Nat → Bool → List Char → List (Piece α)
  | _, _, [] => []
  | passed + 1, _, _ :: rest => scanFrom recognise passed false rest
  | 0, inWord, c :: rest =>
      match if inWord && Text.isWordChar c then none else recognise (c :: rest) with
      | some (t, further) => .token t :: scanFrom recognise further false rest
      | none => .char c :: scanFrom recognise 0 (Text.isWordChar c) rest

/-- Scans a whole line with a recogniser, which is given the rest of the line
and answers with a token and the number of its characters after the first. -/
def scan {α : Type} (recognise : List Char → Option (α × Nat)) (line : List Char) :
    List (Piece α) :=
  scanFrom recognise 0 false line

/-- The tokens of a scanned line. -/
def tokens {α : Type} (pieces : List (Piece α)) : List α :=
  pieces.filterMap Piece.token?

/-- The line with a blank in place of every token. -/
def residue {α : Type} (pieces : List (Piece α)) : List Char :=
  pieces.map Piece.residue

end Query
end Gallery
