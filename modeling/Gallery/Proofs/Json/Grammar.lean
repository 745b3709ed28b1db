import Gallery.Json.Token
import Gallery.Proofs.Text.Entries

namespace Gallery
namespace Json

/-!
# The grammar of JSON texts

The tokens of a value spell its structure, and a text of the value is a layout of them:
each token in one of its written forms, with blanks in front of it, behind it or both.  A
string has many written forms, since most of its characters may be escaped; a number is
written with digits, among which there is no zero too many, and what is not whole keeps
its spelling.

The rules say what a text may be, and not how it is read.
-/

open Text (DenotesDigits)

/-! ## Strings -/

namespace Quoted

/-- Characters and the code values that spell them: a character is its own code value, or a
pair of surrogates. -/
inductive Encodes : List Char → List Nat → Prop
  | nil : Encodes [] []
  | one {c : Char} {text : List Char} {codes : List Nat} (rest : Encodes text codes) :
      Encodes (c :: text) (c.toNat :: codes)
  | pair {c : Char} {high low : Nat} {text : List Char} {codes : List Nat}
      (isHigh : isHighSurrogate high = true) (isLow : isLowSurrogate low = true)
      (isCode : c.toNat = 0x10000 + (high - 0xD800) * 0x400 + (low - 0xDC00))
      (rest : Encodes text codes) : Encodes (c :: text) (high :: low :: codes)

/-- Hexadecimal digits and the number that they spell. -/
inductive Hexadecimal : List Char → Nat → Prop
  | nil : Hexadecimal [] 0
  | concat {digits : List Char} {value digit : Nat} {c : Char} (before : Hexadecimal digits value)
      (isDigit : hexValue? c = some digit) : Hexadecimal (digits ++ [c]) (16 * value + digit)

/-- Code values and what may be written for them between quotes: a character for itself, an
escape of one letter, or an escape of four hexadecimal digits. -/
inductive Writes : List Nat → List Char → Prop
  | nil : Writes [] []
  | plain {c : Char} {codes : List Nat} {written : List Char} (notQuote : c ≠ '"')
      (notBackslash : c ≠ '\\') (notControl : 0x20 ≤ c.toNat) (rest : Writes codes written) :
      Writes (c.toNat :: codes) (c :: written)
  | short {letter : Char} {code : Nat} {codes : List Nat} {written : List Char}
      (isShort : shortEscape? letter = some code) (rest : Writes codes written) :
      Writes (code :: codes) ('\\' :: letter :: written)
  | hexadecimal {digits : List Char} {code : Nat} {codes : List Nat} {written : List Char}
      (four : digits.length = 4) (spelled : Hexadecimal digits code) (rest : Writes codes written) :
      Writes (code :: codes) ('\\' :: 'u' :: (digits ++ written))

theorem Writes.append {codes more : List Nat} {written further : List Char}
    (first : Writes codes written) (second : Writes more further) :
    Writes (codes ++ more) (written ++ further) := by
  induction first with
  | nil => exact second
  | plain notQuote notBackslash notControl _ inductionHypothesis =>
      exact .plain notQuote notBackslash notControl inductionHypothesis
  | short isShort _ inductionHypothesis => exact .short isShort inductionHypothesis
  | hexadecimal four spelled _ inductionHypothesis =>
      simp only [List.cons_append, List.append_assoc]
      exact .hexadecimal four spelled inductionHypothesis

end Quoted

namespace Token

/-! ## Literals -/

/-- The whole part of a number and its value: digits without a zero too many. -/
structure DenotesWhole (text : List Char) (number : Nat) : Prop
    extends DenotesDigits text number where
  noLeadingZero : text.head? = some '0' → text = ['0']

/-- The exponent of a number, which may be missing. -/
inductive ExponentPart : List Char → Prop
  | absent : ExponentPart []
  | present {mark : Char} {sign digits : List Char} {value : Nat} (isMark : mark = 'e' ∨ mark = 'E')
      (isSign : sign = [] ∨ sign = ['+'] ∨ sign = ['-']) (isPower : DenotesDigits digits value) :
      ExponentPart (mark :: (sign ++ digits))

/-- The fraction of a number and its exponent, either of which may be missing. -/
inductive FractionPart : List Char → Prop
  | absent {exponent : List Char} (isExponent : ExponentPart exponent) : FractionPart exponent
  | present {digits exponent : List Char} {value : Nat} (isFraction : DenotesDigits digits value)
      (isExponent : ExponentPart exponent) : FractionPart ('.' :: (digits ++ exponent))

/-- Numbers and what is written for them.  A number with a fraction or an exponent is real,
and so is a negative zero. -/
inductive WritesNumber : Json → List Char → Prop
  | natural {digits : List Char} {n : Nat} (whole : DenotesWhole digits n) :
      WritesNumber (.integer n) digits
  | negative {digits : List Char} {n : Nat} (whole : DenotesWhole digits n) (nonzero : n ≠ 0) :
      WritesNumber (.integer (-n)) ('-' :: digits)
  | real {sign digits rest : List Char} {n : Nat} (isSign : sign = [] ∨ sign = ['-'])
      (whole : DenotesWhole digits n) (isRest : FractionPart rest)
      (isReal : rest ≠ [] ∨ sign = ['-'] ∧ n = 0) :
      WritesNumber (.real (String.ofList (sign ++ (digits ++ rest)))) (sign ++ (digits ++ rest))

/-- Literals and what is written for them. -/
inductive WritesLiteral : Json → List Char → Prop
  | null : WritesLiteral .null ['n', 'u', 'l', 'l']
  | isTrue : WritesLiteral (.bool true) ['t', 'r', 'u', 'e']
  | isFalse : WritesLiteral (.bool false) ['f', 'a', 'l', 's', 'e']
  | number {value : Json} {text : List Char} (isNumber : WritesNumber value text) :
      WritesLiteral value text

/-! ## Tokens -/

/-- Tokens and what is written for them. -/
inductive Writes : Token → List Char → Prop
  | openArray : Writes .openArray ['[']
  | closeArray : Writes .closeArray [']']
  | openObject : Writes .openObject ['\x7b']
  | closeObject : Writes .closeObject ['\x7d']
  | comma : Writes .comma [',']
  | colon : Writes .colon [':']
  | string {text : List Char} {codes : List Nat} {written : List Char}
      (encodes : Quoted.Encodes text codes) (quoted : Quoted.Writes codes written) :
      Writes (.string (some (String.ofList text))) ('"' :: (written ++ ['"']))
  | garbled {codes : List Nat} {written : List Char} (noText : ∀ text, ¬Quoted.Encodes text codes)
      (quoted : Quoted.Writes codes written) :
      Writes (.string none) ('"' :: (written ++ ['"']))
  | literal {value : Json} {text : List Char} (isLiteral : WritesLiteral value text) :
      Writes (.literal value) text

/-- Tokens that are written one after the other, with blanks between them. -/
inductive Layout : List Token → List Char → Prop
  | nil : Layout [] []
  | blank {c : Char} {tokens : List Token} {text : List Char} (isBlank : isSpace c = true)
      (rest : Layout tokens text) : Layout tokens (c :: text)
  | token {token : Token} {tokens : List Token} {written text : List Char}
      (writes : Writes token written) (rest : Layout tokens text) :
      Layout (token :: tokens) (written ++ text)

theorem Layout.append {tokens more : List Token} {text further : List Char}
    (first : Layout tokens text) (second : Layout more further) :
    Layout (tokens ++ more) (text ++ further) := by
  induction first with
  | nil => exact second
  | blank isBlank _ inductionHypothesis => exact .blank isBlank inductionHypothesis
  | token writes _ inductionHypothesis =>
      rw [List.append_assoc]
      exact .token writes inductionHypothesis

end Token

/-! ## Values -/

mutual

/-- The tokens of a value. -/
def tokens : Json → List Token
  | .string text => [.string (some text)]
  | .garbled => [.string none]
  | .array [] => [.openArray, .closeArray]
  | .array (item :: rest) => .openArray :: (tokens item ++ moreItems rest ++ [.closeArray])
  | .object [] => [.openObject, .closeObject]
  | .object ((key, value) :: rest) =>
      .openObject :: .string key :: .colon :: (tokens value ++ moreMembers rest ++ [.closeObject])
  | .null => [.literal .null]
  | .bool value => [.literal (.bool value)]
  | .integer value => [.literal (.integer value)]
  | .real literal => [.literal (.real literal)]

/-- The tokens of further items of an array. -/
def moreItems : List Json → List Token
  | [] => []
  | item :: rest => .comma :: (tokens item ++ moreItems rest)

/-- The tokens of further members of an object. -/
def moreMembers : List (Option String × Json) → List Token
  | [] => []
  | (key, value) :: rest => .comma :: .string key :: .colon :: (tokens value ++ moreMembers rest)

end

/-- Whether a text is JSON for a value. -/
def IsText (value : Json) (text : List Char) : Prop :=
  Token.Layout value.tokens text

end Json
end Gallery
