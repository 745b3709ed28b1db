import Gallery.Text.Split
import Gallery.Web.Domain.Context
import Gallery.Web.Domain.Mapping
import Gallery.Web.Punycode

namespace Gallery
namespace Web

/-!
# Domain names

A domain name is mapped, brought into composed form and split into labels.  A
label with the prefix `xn--` is the written form of another label: it is ASCII
itself and has to decode to a label that could not be written in ASCII.  The
result is the list of labels as they are written in ASCII, which is all that an
address needs; a label outside ASCII is kept in place of its written form, since
only whether it looks like a number matters afterwards.
-/

namespace Domain

/-- Labels longer than this are refused rather than written in ASCII. -/
def encodingLimit : Nat := 1000

/-- Written labels longer than this are refused rather than decoded. -/
def decodingLimit : Nat := 2000

/-- Whether the character belongs to ASCII. -/
def isAscii (c : Char) : Bool :=
  c.toNat < 0x80

/-- ASCII characters that no host may contain. -/
def isForbidden (c : Char) : Bool :=
  c.toNat ≤ 0x20 || c = '\x7f' ||
    ['#', '%', '/', ':', '<', '>', '?', '@', '[', '\\', ']', '^', '|'].contains c

/-- The name with every character mapped, in composed form. -/
def mapped? (name : List Char) : Option (List Char) :=
  (name.mapM mapChar).map fun images =>
    let text := images.flatten
    if text.all isAscii then text else Text.Composed.ofText text

/-- The label that a label of a mapped name stands for. -/
def decodeLabel? (label : List Char) : Option (List Char) :=
  if label.take 4 = ['x', 'n', '-', '-'] then
    if !label.all isAscii || decodingLimit < label.length - 4 then none
    else
      match Punycode.decode? (label.drop 4) with
      | none => none
      | some decoded =>
          if decoded.all isAscii then none
          else if decoded.all valid.contains && Text.Composed.ofText decoded = decoded then
            some decoded
          else none
  else if !label.all isAscii && encodingLimit < label.length then none
  else some label

/-- Whether a decoded label is well formed on its own: it begins with no mark,
and every joiner stands where one is allowed. -/
def isLabel (label : List Char) : Bool :=
  !(label.head?.any Text.Letter.mark.contains) && joinersFrom [] label

/-- The labels of a name, or none when it is not a domain name. -/
def labels? (name : List Char) : Option (List (List Char)) := do
  let labels := Text.split (· = '.') (← mapped? name)
  let decoded ← labels.mapM decodeLabel?
  if labels.any (·.any isForbidden) || decoded.any (·.any isForbidden) then none
  else if !decoded.all isLabel then none
  else if decoded.any (·.any fun c => (directionOf c).isRightward) && !decoded.all keepsDirection then
    none
  else some labels

end Domain

end Web
end Gallery
