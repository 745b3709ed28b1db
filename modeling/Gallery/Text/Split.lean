namespace Gallery
namespace Text

/-!
# Splitting at separators

A text with `n` separators splits into `n + 1` parts, some of which may be
empty; the parts with the separators between them are the text again.
-/

/-- The parts of a text between the characters that satisfy `separates`. -/
def split (separates : Char → Bool) : List Char → List (List Char)
  | [] => [[]]
  | c :: text =>
      if separates c then [] :: split separates text
      else
        match split separates text with
        | [] => [[c]]
        | part :: parts => (c :: part) :: parts

end Text
end Gallery
