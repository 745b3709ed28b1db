import Gallery.Query.Comparison
import Gallery.Query.TagToken
import Gallery.Text.Numeral

namespace Gallery
namespace Query

/-!
# Number tokens

A number token is a word, a comparison and a number, such as `pages>=10`; the
number may have a unit, such as `size<2m`.  It stands between word boundaries.
Only sizes have units, and a word that is neither reserved nor one of the
counted things is the namespace whose tags are counted.
-/

/-- What a number filter compares. -/
inductive Subject where
  | pages
  | tagCount
  | sourceCount
  | size
  | namespaceCount (name : String)
deriving DecidableEq, Repr

/-- A filter on one number of an archive. -/
structure NumberFilter where
  subject : Subject
  comparison : Comparison
  value : Int64
deriving DecidableEq, Repr

/-- A number token as written. -/
structure NumberToken where
  word : List Char
  comparison : Comparison
  digits : List Char
  unit : Option Char
deriving DecidableEq, Repr

namespace NumberToken

/-- The comparison at the start of a line, and what follows it. -/
def comparisonOf : List Char → Option (Comparison × List Char)
  | '>' :: '=' :: rest => some (.atLeast, rest)
  | '<' :: '=' :: rest => some (.atMost, rest)
  | '>' :: rest => some (.greater, rest)
  | '<' :: rest => some (.less, rest)
  | '=' :: rest => some (.equal, rest)
  | _ => none

/-- Whether the character is a unit.  The Kelvin sign counts, since it is a `k`
up to case. -/
def isUnit (c : Char) : Bool :=
  c = '\u212a' || ['k', 'm', 'g'].contains c.toLower

/-- Whether a word ends before the line. -/
def atBoundary : List Char → Bool
  | [] => true
  | c :: _ => !Text.isWordChar c

/-- The unit at the start of a line that follows digits, or the fact that there
is none; there is neither if the word goes on. -/
def unitOf (line : List Char) : Option (Option Char) :=
  match line with
  | c :: rest =>
      if isUnit c && atBoundary rest then some (some c)
      else if atBoundary line then some none
      else none
  | [] => some none

/-- The number token at the start of a line, with the number of its characters
after the first. -/
def recognise (line : List Char) : Option (NumberToken × Nat) :=
  let word := line.takeWhile Text.isWordChar
  if word.isEmpty then none
  else
    match comparisonOf (line.dropWhile Text.isWordChar) with
    | none => none
    | some (comparison, rest) =>
        let digits := rest.takeWhile Text.isDecimalDigit
        if digits.isEmpty then none
        else
          match unitOf (rest.dropWhile Text.isDecimalDigit) with
          | none => none
          | some unit =>
              some (⟨word, comparison, digits, unit⟩,
                word.length - 1 + comparison.symbol.length + digits.length + unit.toList.length)

/-- The number of bytes in a unit. -/
def multiplier : Option Char → Int
  | some c =>
      match c.toLower with
      | 'k' => 1024
      | 'm' => 1024 * 1024
      | 'g' => 1024 * 1024 * 1024
      | _ => 1
  | none => 1

/-- What the word of a token counts, if it is not reserved. -/
def subject? (word : List Char) : Option Subject :=
  let text := String.ofList word
  match Text.lowerAscii text with
  | "pages" => some .pages
  | "tags" => some .tagCount
  | "sources" => some .sourceCount
  | "size" => some .size
  | _ => if isReserved text then none else some (.namespaceCount text)

/-- The filter that a token stands for.  A number outside the range, a size
outside the range and a unit on anything but a size ask for nothing. -/
def numberFilter? (token : NumberToken) : Option NumberFilter := do
  let number ← Text.readInt64 token.digits
  let subject ← subject? token.word
  let value ←
    if subject = .size then Text.Numeral.int64? (number.toInt * multiplier token.unit)
    else if token.unit.isNone then some number
    else none
  return ⟨subject, token.comparison, value⟩

end NumberToken

namespace NumberFilter

/-- The filters without those whose subject a later filter takes up again. -/
def lastPerSubject : List NumberFilter → List NumberFilter
  | [] => []
  | filter :: later =>
      if later.any (·.subject = filter.subject) then lastPerSubject later
      else filter :: lastPerSubject later

end NumberFilter

end Query
end Gallery
