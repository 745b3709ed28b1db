namespace Gallery
namespace Text
namespace Utf8

/-!
# UTF-8

The decoder takes one octet at a time.  Inside a character it knows how many
octets are missing and between which bounds the next one must lie; the bounds
rule out overlong forms, surrogates and numbers beyond the code space.  An octet
that does not fit ends the unfinished character as one malformed spot and is
then read again as the start of another.
-/

/-- The octets of a character. -/
def encodeChar (c : Char) : List UInt8 :=
  let n := c.toNat
  if n < 0x80 then [n.toUInt8]
  else if n < 0x800 then [(0xC0 + n / 0x40).toUInt8, (0x80 + n % 0x40).toUInt8]
  else if n < 0x10000 then
    [(0xE0 + n / 0x1000).toUInt8, (0x80 + n / 0x40 % 0x40).toUInt8, (0x80 + n % 0x40).toUInt8]
  else
    [(0xF0 + n / 0x40000).toUInt8, (0x80 + n / 0x1000 % 0x40).toUInt8,
      (0x80 + n / 0x40 % 0x40).toUInt8, (0x80 + n % 0x40).toUInt8]

/-- The octets of a text. -/
def encode (text : List Char) : List UInt8 :=
  text.flatMap encodeChar

/-- Where the decoder stands: between characters, or inside one with the value
read so far, the number of missing octets and the bounds of the next. -/
inductive State where
  | between
  | inside (value missing : Nat) (low high : UInt8)

/-- Reads an octet between characters: the character or malformed spot that it
is by itself, if any, and the state after it. -/
def start (octet : UInt8) : List (Option Char) × State :=
  let n := octet.toNat
  if octet < 0x80 then ([some (Char.ofNat n)], .between)
  else if octet < 0xC2 then ([none], .between)
  else if octet < 0xE0 then ([], .inside (n - 0xC0) 1 0x80 0xBF)
  else if octet < 0xF0 then
    ([], .inside (n - 0xE0) 2 (if octet = 0xE0 then 0xA0 else 0x80)
      (if octet = 0xED then 0x9F else 0xBF))
  else if octet < 0xF5 then
    ([], .inside (n - 0xF0) 3 (if octet = 0xF0 then 0x90 else 0x80)
      (if octet = 0xF4 then 0x8F else 0xBF))
  else ([none], .between)

/-- Reads one octet in any state. -/
def step : State → UInt8 → List (Option Char) × State
  | .between, octet => start octet
  | .inside value missing low high, octet =>
      if low ≤ octet && octet ≤ high then
        let value := 0x40 * value + (octet.toNat - 0x80)
        if missing ≤ 1 then ([some (Char.ofNat value)], .between)
        else ([], .inside value (missing - 1) 0x80 0xBF)
      else
        let (pieces, state) := start octet
        (none :: pieces, state)

/-- The characters and malformed spots of a list of octets. -/
def pieces : State → List UInt8 → List (Option Char)
  | .between, [] => []
  | .inside _ _ _ _, [] => [none]
  | state, octet :: octets =>
      let (read, state) := step state octet
      read ++ pieces state octets

/-- The text that the octets encode, if every octet belongs to a character. -/
def decode? (octets : List UInt8) : Option (List Char) :=
  (pieces .between octets).mapM id

/-- The text that the octets encode, with a replacement character for every
malformed spot. -/
def decodeLossy (octets : List UInt8) : List Char :=
  (pieces .between octets).map fun piece => piece.getD '\uFFFD'

end Utf8
end Text
end Gallery
