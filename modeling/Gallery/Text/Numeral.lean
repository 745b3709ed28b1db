namespace Gallery
namespace Text

/-!
# Decimal numerals

A numeral is a nonempty run of ASCII digits.  A signed reader takes one sign of
either kind in front of it and an unsigned one takes only a plus; both refuse
numbers outside their range, so no value is ever reduced modulo a power of two.
-/

namespace Numeral

/-- The value of a digit, if the character is an ASCII digit. -/
def digit? (c : Char) : Option Nat :=
  if '0' ≤ c && c ≤ '9' then some (c.toNat - '0'.toNat) else none

/-- The value of the digits `text` written after digits of value `value`. -/
def valueFrom : Nat → List Char → Option Nat
  | value, [] => some value
  | value, c :: text =>
      match digit? c with
      | some d => valueFrom (10 * value + d) text
      | none => none

/-- The natural number that a nonempty run of digits denotes. -/
def natural? : List Char → Option Nat
  | [] => none
  | text => valueFrom 0 text

/-- The integer that a numeral with an optional sign denotes. -/
def integer? : List Char → Option Int
  | '-' :: text => (natural? text).map fun n => -(n : Int)
  | '+' :: text => (natural? text).map fun n => (n : Int)
  | text => (natural? text).map fun n => (n : Int)

/-- The natural number that a numeral with an optional plus denotes. -/
def unsigned? : List Char → Option Nat
  | '+' :: text => natural? text
  | text => natural? text

/-- The signed 64-bit number with the given value, if there is one. -/
def int64? (n : Int) : Option Int64 :=
  if Int64.minValue.toInt ≤ n && n ≤ Int64.maxValue.toInt then some (Int64.ofInt n) else none

/-- The unsigned 64-bit number with the given value, if there is one. -/
def uint64? (n : Int) : Option UInt64 :=
  if 0 ≤ n && n < UInt64.size then some (UInt64.ofNat n.toNat) else none

/-- The unsigned 32-bit number with the given value, if there is one. -/
def uint32? (n : Int) : Option UInt32 :=
  if 0 ≤ n && n < UInt32.size then some (UInt32.ofNat n.toNat) else none

/-- The unsigned 16-bit number with the given value, if there is one. -/
def uint16? (n : Int) : Option UInt16 :=
  if 0 ≤ n && n < UInt16.size then some (UInt16.ofNat n.toNat) else none

end Numeral

/-- Reads a signed 64-bit number. -/
def readInt64 (text : List Char) : Option Int64 :=
  (Numeral.integer? text).bind Numeral.int64?

/-- Reads an unsigned 64-bit number. -/
def readUInt64 (text : List Char) : Option UInt64 :=
  (Numeral.unsigned? text).bind fun n => Numeral.uint64? n

end Text
end Gallery
