import Gallery.Text.Lowercase.Classes
import Gallery.Text.Lowercase.Runs

namespace Gallery
namespace Text

/-!
# Lowercase text

Every character has a lowercase form of its own; only the capital I with a dot
takes two characters for it.  In running text a capital sigma at the end of a
word becomes the final sigma, so lowercasing a text looks at the characters
around each sigma, while lowercasing a character does not.
-/

namespace Lowercase

/-- Whether the capital `code` belongs to the run. -/
def Run.holds (run : Run) (code : Nat) : Bool :=
  run.first ≤ code && code ≤ run.last && (code - run.first) % run.step == 0

/-- The code point of the small letter of `code`, which is `code` itself when
no run holds it. -/
def small (code : Nat) : Nat :=
  match runs.find? (·.holds code) with
  | some run => (code + run.shift).toNat
  | none => code

/-- Whether the nearest character that is not case-ignorable is cased. -/
def reachesCased (text : List Char) : Bool :=
  match text.dropWhile caseIgnorable.contains with
  | [] => false
  | c :: _ => cased.contains c

/-- Lowercases `text`, whose preceding characters, nearest first, are `before`. -/
def inContext : List Char → List Char → List Char
  | _, [] => []
  | before, 'Σ' :: after =>
      (if reachesCased before && !reachesCased after then 'ς' else 'σ') ::
        inContext ('Σ' :: before) after
  | before, 'İ' :: after => 'i' :: '\u0307' :: inContext ('İ' :: before) after
  | before, c :: after => Char.ofNat (small c.toNat) :: inContext (c :: before) after

end Lowercase

/-- The lowercase form of one character, whatever stands around it. -/
def lowerChar (c : Char) : List Char :=
  if c = 'İ' then ['i', '\u0307'] else [Char.ofNat (Lowercase.small c.toNat)]

/-- The text with each character lowercased on its own. -/
def lowerEach (text : List Char) : List Char :=
  text.flatMap lowerChar

/-- The lowercase form of a text. -/
def lower (text : List Char) : List Char :=
  Lowercase.inContext [] text

/-- The text with the capital letters of ASCII made small and everything else
kept. -/
def lowerAscii (text : String) : String :=
  text.map Char.toLower

end Text
end Gallery
