import Gallery.FullText.Fold.Table
import Gallery.Text.Utf8

namespace Gallery
namespace FullText

/-!
# Tokens of the index

The index knows texts as lists of tokens.  A token begins with a token
character, goes on through token characters and silent marks, and is compared
in its folded form, of which only so many octets count.  A phrase occurs in a text when its tokens stand in the text
side by side and in order; a phrase without tokens occurs nowhere.
-/

namespace Fold

/-- Whether the code point belongs to the run. -/
def Run.holds (run : Run) (code : Nat) : Bool :=
  run.first ≤ code && code ≤ run.last && (run.step = 0 || (code - run.first) % run.step = 0)

/-- The image of a code point of the run. -/
def Run.imageOf (run : Run) (code : Nat) : Nat :=
  if run.step = 0 then run.image else run.image + (code - run.first)

/-- The folded form of a token character. -/
def foldChar (c : Char) : Char :=
  if c.toNat < 0x80 then c.toLower
  else
    match runs.find? (·.holds c.toNat) with
    | some run => Char.ofNat (run.imageOf c.toNat)
    | none => c

/-- Adds the token that has been read backwards, if there is one. -/
def close (token : List Char) (later : List (List Char)) : List (List Char) :=
  if token.isEmpty then later else token.reverse :: later

/-- The tokens of a text after the token that is being read backwards. -/
def tokensFrom : List Char → List Char → List (List Char)
  | token, [] => close token []
  | token, c :: text =>
      if tokenChars.contains c then tokensFrom (foldChar c :: token) text
      else if !token.isEmpty && silentMarks.contains c then tokensFrom token text
      else close token (tokensFrom [] text)

end Fold

/-- The most octets of a token that the index keeps. -/
def tokenLimit : Nat := 32768

/-- The octets by which the index knows a token. -/
def octets (token : List Char) : List UInt8 :=
  (Text.Utf8.encode token).take tokenLimit

/-- The folded tokens of a text, each as octets. -/
def tokens (text : List Char) : List (List UInt8) :=
  (Fold.tokensFrom [] text).map octets

/-- Whether the tokens of a phrase stand side by side in a list of tokens. -/
def occursIn (phrase : List (List UInt8)) : List (List UInt8) → Bool
  | [] => phrase.isEmpty
  | token :: rest => phrase.isPrefixOf (token :: rest) || occursIn phrase rest

/-- Whether a phrase occurs in a text. -/
def phraseOccurs (phrase text : List Char) : Bool :=
  !(tokens phrase).isEmpty && occursIn (tokens phrase) (tokens text)

end FullText
end Gallery
