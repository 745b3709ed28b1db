import Gallery.Json.Basic
import Gallery.Json.Quoted

namespace Gallery
namespace Json

/-!
# Tokens

The text of a value is a sequence of tokens with blanks between them.  The
scanner is a machine that takes one character at a time, so the length of a
string and the depth of a value cost it nothing.  A run of letters, digits,
signs and points is collected as a whole and then judged: two literals never
stand side by side in a valid text, so no valid text is split in another way.
-/

/-- A token of the text of a value. -/
inductive Token where
  | openArray
  | closeArray
  | openObject
  | closeObject
  | comma
  | colon
  | string (text : Option String)
  | literal (value : Json)

namespace Token

/-- The characters between which the grammar allows anything to stand. -/
def isSpace (c : Char) : Bool :=
  c = ' ' || c = '\t' || c = '\n' || c = '\r'

/-- The token that one character is by itself. -/
def punctuation? (c : Char) : Option Token :=
  if c = '[' then some .openArray
  else if c = ']' then some .closeArray
  else if c = '\x7b' then some .openObject
  else if c = '\x7d' then some .closeObject
  else if c = ',' then some .comma
  else if c = ':' then some .colon
  else none

/-- Whether the character is an ASCII digit. -/
def isDigit (c : Char) : Bool :=
  '0' ≤ c && c ≤ '9'

/-- Characters of numbers and of the three named values. -/
def isLiteralChar (c : Char) : Bool :=
  isDigit c || ('a' ≤ c && c ≤ 'z') || c = 'E' || c = '+' || c = '-' || c = '.'

/-- Whether the text is an exponent, or nothing at all. -/
def isExponent : List Char → Bool
  | [] => true
  | c :: rest =>
      let digits := match rest with
        | '+' :: digits => digits
        | '-' :: digits => digits
        | digits => digits
      (c = 'e' || c = 'E') && !digits.isEmpty && digits.all isDigit

/-- Whether the text is a fraction with or without an exponent, or an exponent. -/
def isFraction : List Char → Bool
  | '.' :: rest => !(rest.takeWhile isDigit).isEmpty && isExponent (rest.dropWhile isDigit)
  | rest => isExponent rest

/-- The number that the text is.  No number has a leading zero before another
digit, and a negative zero is a real number. -/
def number? (text : List Char) : Option Json :=
  let body := match text with
    | '-' :: body => body
    | body => body
  let digits := body.takeWhile isDigit
  let rest := body.dropWhile isDigit
  if 1 < digits.length && digits.head? == some '0' then none
  else
    match Text.Numeral.natural? digits with
    | none => none
    | some value =>
        if !isFraction rest then none
        else if !rest.isEmpty then some (.real (String.ofList text))
        else if text.head? == some '-' then
          if value = 0 then some (.real (String.ofList text)) else some (.integer (-(value : Int)))
        else some (.integer value)

/-- The value of a literal. -/
def literal? (text : List Char) : Option Json :=
  if text = ['n', 'u', 'l', 'l'] then some .null
  else if text = ['t', 'r', 'u', 'e'] then some (.bool true)
  else if text = ['f', 'a', 'l', 's', 'e'] then some (.bool false)
  else number? text

/-- Where the scanner stands: between tokens, inside a literal, inside a string,
after its backslash, or inside a hexadecimal escape.  Literals and code values
are collected backwards. -/
inductive Scanner where
  | between
  | literal (read : List Char)
  | quoted (codes : List Nat)
  | escaped (codes : List Nat)
  | hexadecimal (codes : List Nat) (value : Nat) (missing : Nat)

/-- Begins the token that `c` starts, if any, on top of the tokens read. -/
def begin (tokens : List Token) (c : Char) : Option (List Token × Scanner) :=
  if isSpace c then some (tokens, .between)
  else if c = '"' then some (tokens, .quoted [])
  else if isLiteralChar c then some (tokens, .literal [c])
  else (punctuation? c).map fun token => (token :: tokens, .between)

/-- Ends a literal. -/
def endLiteral (tokens : List Token) (read : List Char) : Option (List Token) :=
  (literal? read.reverse).map fun value => .literal value :: tokens

/-- One step of the scanner.  The tokens read so far are kept backwards. -/
def step (tokens : List Token) : Scanner → Char → Option (List Token × Scanner)
  | .between, c => begin tokens c
  | .literal read, c =>
      if isLiteralChar c then some (tokens, .literal (c :: read))
      else (endLiteral tokens read).bind fun tokens => begin tokens c
  | .quoted codes, c =>
      if c = '"' then
        some (.string ((Quoted.join codes.reverse).map String.ofList) :: tokens, .between)
      else if c = '\\' then some (tokens, .escaped codes)
      else if c.toNat < 0x20 then none
      else some (tokens, .quoted (c.toNat :: codes))
  | .escaped codes, c =>
      if c = 'u' then some (tokens, .hexadecimal codes 0 4)
      else (Quoted.shortEscape? c).map fun code => (tokens, .quoted (code :: codes))
  | .hexadecimal codes value missing, c =>
      (Quoted.hexValue? c).map fun digit =>
        if missing ≤ 1 then (tokens, .quoted ((16 * value + digit) :: codes))
        else (tokens, .hexadecimal codes (16 * value + digit) (missing - 1))

/-- Reads the rest of the text.  The result is in the order of the text. -/
def scanFrom (tokens : List Token) : Scanner → List Char → Option (List Token)
  | .between, [] => some tokens.reverse
  | .literal read, [] => (endLiteral tokens read).map List.reverse
  | _, [] => none
  | scanner, c :: text =>
      match step tokens scanner c with
      | some (tokens, scanner) => scanFrom tokens scanner text
      | none => none

/-- The tokens of a text, or none when some part of it is no token. -/
def scan (text : List Char) : Option (List Token) :=
  scanFrom [] .between text

end Token

end Json
end Gallery
