namespace Gallery
namespace Json
namespace Quoted

/-!
# Quoted text

A string is written between quotes.  A quote, a backslash and the control
characters below the space are escaped, by the short form where there is one;
everything else stands for itself.  What is read back is first a list of code
values, since an escape may name half of a surrogate pair; the halves are
joined when the string has ended.
-/

/-- The lowercase hexadecimal digit of a number below sixteen. -/
def hexDigit (n : Nat) : Char :=
  if n < 10 then Char.ofNat ('0'.toNat + n) else Char.ofNat ('a'.toNat + (n - 10))

/-- The value of a hexadecimal digit of either case. -/
def hexValue? (c : Char) : Option Nat :=
  if '0' ≤ c && c ≤ '9' then some (c.toNat - '0'.toNat)
  else if 'a' ≤ c && c ≤ 'f' then some (c.toNat - 'a'.toNat + 10)
  else if 'A' ≤ c && c ≤ 'F' then some (c.toNat - 'A'.toNat + 10)
  else none

/-- The written form of one character inside quotes. -/
def escape (c : Char) : List Char :=
  if c = '"' then ['\\', '"']
  else if c = '\\' then ['\\', '\\']
  else if c = '\x08' then ['\\', 'b']
  else if c = '\t' then ['\\', 't']
  else if c = '\n' then ['\\', 'n']
  else if c = '\x0c' then ['\\', 'f']
  else if c = '\r' then ['\\', 'r']
  else if c.toNat < 0x20 then
    ['\\', 'u', '0', '0', hexDigit (c.toNat / 16), hexDigit (c.toNat % 16)]
  else [c]

/-- The written form of a text, quotes included. -/
def quote (text : List Char) : List Char :=
  '"' :: (text.flatMap escape ++ ['"'])

/-- The code value of a one-letter escape. -/
def shortEscape? (c : Char) : Option Nat :=
  if c = '"' || c = '\\' || c = '/' then some c.toNat
  else if c = 'b' then some 0x08
  else if c = 'f' then some 0x0C
  else if c = 'n' then some 0x0A
  else if c = 'r' then some 0x0D
  else if c = 't' then some 0x09
  else none

/-- Whether the code value is the first half of a surrogate pair. -/
def isHighSurrogate (code : Nat) : Bool :=
  0xD800 ≤ code && code < 0xDC00

/-- Whether the code value is the second half of a surrogate pair. -/
def isLowSurrogate (code : Nat) : Bool :=
  0xDC00 ≤ code && code < 0xE000

/-- The text that the code values spell after `read`, which is kept backwards;
there is none if a surrogate has no partner. -/
def joinFrom (read : List Char) : List Nat → Option (List Char)
  | [] => some read.reverse
  | [code] =>
      if isHighSurrogate code || isLowSurrogate code then none
      else some (Char.ofNat code :: read).reverse
  | code :: next :: rest =>
      if isHighSurrogate code then
        if isLowSurrogate next then
          joinFrom (Char.ofNat (0x10000 + (code - 0xD800) * 0x400 + (next - 0xDC00)) :: read) rest
        else none
      else if isLowSurrogate code then none
      else joinFrom (Char.ofNat code :: read) (next :: rest)

/-- The text that a list of code values spells. -/
def join (codes : List Nat) : Option (List Char) :=
  joinFrom [] codes

end Quoted
end Json
end Gallery
