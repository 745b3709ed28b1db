import Gallery.Text.Numeral
import Gallery.Text.Utf8
import Gallery.Web.Domain
import Gallery.Web.Percent

namespace Gallery
namespace Web

/-!
# Hosts

A host is an address of sixteen octets in brackets, a domain name, or an
address of four octets.  A name whose last label looks like a number is taken
for an address of four octets and has to be one.
-/

namespace Host

/-- Whether the character is an ASCII digit. -/
def isDigit (c : Char) : Bool :=
  '0' ≤ c && c ≤ '9'

/-- The value of a hexadecimal digit of either case. -/
def hexDigit? (c : Char) : Option Nat :=
  if isDigit c then some (c.toNat - '0'.toNat)
  else if 'a' ≤ c && c ≤ 'f' then some (c.toNat - 'a'.toNat + 10)
  else if 'A' ≤ c && c ≤ 'F' then some (c.toNat - 'A'.toNat + 10)
  else none

/-- The value of digits in a base, or none when some character is no digit of
it.  No digits at all are worth zero. -/
def inBase (base : Nat) (digits : List Char) : Option Nat :=
  (digits.mapM hexDigit?).bind fun values =>
    if values.all (· < base) then some (values.foldl (fun n d => base * n + d) 0) else none

/-- One number of a four-octet address, in hexadecimal after `0x`, in octal
after another zero, and in decimal otherwise. -/
def number? : List Char → Option Nat
  | [] => none
  | '0' :: 'x' :: digits => inBase 16 digits
  | '0' :: 'X' :: digits => inBase 16 digits
  | '0' :: digit :: digits => inBase 8 (digit :: digits)
  | digits => inBase 10 digits

/-- The labels without an empty one at the end, which only marks the root. -/
def withoutRoot (labels : List (List Char)) : List (List Char) :=
  match labels.reverse with
  | [] :: before => if before.isEmpty then labels else before.reverse
  | _ => labels

/-- Whether the last label looks like a number. -/
def endsInNumber (labels : List (List Char)) : Bool :=
  match (withoutRoot labels).reverse with
  | [] => false
  | last :: _ => (!last.isEmpty && last.all isDigit) || (number? last).isSome

/-- Whether the labels are an address of four octets.  The last number fills
the octets that the others leave. -/
def isFourOctets (labels : List (List Char)) : Bool :=
  let labels := withoutRoot labels
  if 4 < labels.length then false
  else
    match labels.mapM number? with
    | none => false
    | some numbers =>
        match numbers.reverse with
        | [] => false
        | last :: before => last < Nat.pow 256 (4 - before.length) && before.all (· ≤ 255)

/-- Whether the text is a decimal octet without a superfluous zero. -/
def isOctet (text : List Char) : Bool :=
  match text with
  | [] => false
  | ['0'] => true
  | '0' :: _ => false
  | digits => digits.all isDigit && digits.length ≤ 3 && (inBase 10 digits).any (· ≤ 255)

/-- The number of 16-bit groups that a part of a sixteen-octet address takes.
Only the last part of all may be an address of four octets. -/
def groupSize (last : Bool) (part : List Char) : Option Nat :=
  if !part.isEmpty && part.length ≤ 4 && part.all (fun c => (hexDigit? c).isSome) then some 1
  else
    let octets := Text.split (· = '.') part
    if last && octets.length = 4 && octets.all isOctet then some 2 else none

/-- The number of 16-bit groups in parts separated by colons.  Nothing at all
has none. -/
def groups (last : Bool) (text : List Char) : Option Nat :=
  if text.isEmpty then some 0
  else
    let parts := Text.split (· = ':') text
    let before := parts.dropLast.map (groupSize false)
    let final := parts.getLast?.bind (groupSize last)
    (before ++ [final]).foldl (fun total size => total.bind fun n => size.map (n + ·)) (some 0)

/-- What stands before and after the first two colons in a row. -/
def splitAtGap (read : List Char) : List Char → Option (List Char × List Char)
  | ':' :: ':' :: rest => some (read.reverse, rest)
  | c :: rest => splitAtGap (c :: read) rest
  | [] => none

/-- Whether the text is an address of sixteen octets.  A gap stands for at least
one group. -/
def isSixteenOctets (text : List Char) : Bool :=
  match splitAtGap [] text with
  | none => !text.isEmpty && groups true text = some 8
  | some (before, after) =>
      match groups false before, groups true after with
      | some m, some n => m + n ≤ 7
      | _, _ => false

/-- Whether the text without brackets is a domain name or an address of four
octets. -/
def isNamed (text : List Char) : Bool :=
  match Text.Utf8.decode? (Percent.decode (Text.Utf8.encode text)) with
  | none => false
  | some name =>
      match Domain.labels? name with
      | none => false
      | some labels =>
          labels ≠ [[]] && (!endsInNumber labels || isFourOctets labels)

/-- Whether the text is a host. -/
def isHost (text : List Char) : Bool :=
  match text with
  | '[' :: rest =>
      match rest.reverse with
      | ']' :: inner => isSixteenOctets inner.reverse
      | _ => false
  | _ => isNamed text

end Host

end Web
end Gallery
