import Gallery.Web.Domain.MappingTable

namespace Gallery
namespace Web
namespace Domain

/-!
# Mapping a character of a domain name

Every character is kept, dropped, replaced or refused.  Domain names are short,
so the tables are searched from the start.
-/

/-- The characters that are kept. -/
def valid : Text.CodeSet :=
  Text.CodeSet.ofHex validText

/-- The characters that are dropped. -/
def ignored : Text.CodeSet :=
  Text.CodeSet.ofHex ignoredText

/-- Runs of characters with one image each. -/
def runs : List (List Nat) :=
  Text.Hex.rows runText

/-- Characters with several images. -/
def expansions : List (List Nat) :=
  Text.Hex.rows expansionText

/-- The image of a code point in a row of the table of runs, which gives either
one code point and its image, or a run and the image of its first member. -/
def runImage (code : Nat) : List Nat → Option Nat
  | [single, image] => if code = single then some image else none
  | [first, last, step, image] =>
      if first ≤ code && code ≤ last && (code - first) % step = 0 then some (image + (code - first))
      else none
  | _ => none

/-- The image of a code point in a row of the table of expansions. -/
def expansionImage (code : Nat) : List Nat → Option (List Nat)
  | [] => none
  | single :: image => if code = single then some image else none

/-- The characters that a character of a domain name stands for, or none when
it may not occur there. -/
def mapChar (c : Char) : Option (List Char) :=
  if valid.contains c then some [c]
  else if ignored.contains c then some []
  else
    match runs.findSome? (runImage c.toNat) with
    | some image => some [Char.ofNat image]
    | none => (expansions.findSome? (expansionImage c.toNat)).map (·.map Char.ofNat)

end Domain
end Web
end Gallery
