namespace Gallery
namespace Web
namespace Punycode

/-!
# Punycode

A label of any characters is written in ASCII as its basic characters, a
hyphen, and a list of numbers in a base whose digits have changing weights.
Each number says how far to move on, in code points and places, before the next
character is inserted.
-/

/-- The value of a digit: letters come before figures. -/
def digit? (c : Char) : Option Nat :=
  if 'a' ≤ c && c ≤ 'z' then some (c.toNat - 'a'.toNat)
  else if 'A' ≤ c && c ≤ 'Z' then some (c.toNat - 'A'.toNat)
  else if '0' ≤ c && c ≤ '9' then some (c.toNat - '0'.toNat + 26)
  else none

/-- The largest digit that ends a number at the place of weight index `k`. -/
def threshold (k bias : Nat) : Nat :=
  min 26 (max 1 (k - bias))

/-- Divides a distance until it is small, counting thirty-six for each time. -/
def shrink (k delta : Nat) : Nat :=
  if 455 < delta then shrink (k + 36) (delta / 35) else k + 36 * delta / (delta + 38)
termination_by delta
decreasing_by exact Nat.div_lt_self (by omega) (by omega)

/-- The bias after a number of size `delta` with `places` characters present. -/
def adapt (delta places : Nat) (first : Bool) : Nat :=
  let delta := if first then delta / 700 else delta / 2
  let delta := delta + delta / places
  shrink 0 delta

/-- Where the decoder stands inside a number: the place it counts from, the
number read so far, the weight of the next digit and its index. -/
structure Number where
  origin : Nat
  value : Nat
  weight : Nat
  index : Nat

/-- The number that begins when the decoder counts from `origin`. -/
def Number.begin (origin : Nat) : Number where
  origin := origin
  value := origin
  weight := 1
  index := 36

/-- Whether the number denotes a character. -/
def isScalar (code : Nat) : Bool :=
  code < 0xD800 || (0xE000 ≤ code && code < 0x110000)

/-- Reads the digits.  The characters decoded so far, the last code point, the
bias and the number being read are given. -/
def decodeFrom (output : List Nat) (code bias : Nat) (number : Number) :
    List Char → Option (List Nat)
  | [] => if number.index = 36 then some output else none
  | c :: rest =>
      match digit? c with
      | none => none
      | some digit =>
          let value := number.value + digit * number.weight
          let limit := threshold number.index bias
          if digit < limit then
            let places := output.length + 1
            let code := code + value / places
            let place := value % places
            if isScalar code then
              decodeFrom (output.take place ++ code :: output.drop place) code
                (adapt (value - number.origin) places (number.origin = 0))
                (Number.begin (place + 1)) rest
            else none
          else
            decodeFrom output code bias
              ⟨number.origin, value, number.weight * (36 - limit), number.index + 36⟩ rest

/-- The basic characters and the digits of a written label: what stands before
and after the last hyphen.  A hyphen with nothing before it separates nothing. -/
def parts (text : List Char) : List Char × List Char :=
  match text.reverse.span (· ≠ '-') with
  | (digits, _ :: last :: basic) => ((last :: basic).reverse, digits.reverse)
  | _ => ([], text)

/-- The label that is written as `text`. -/
def decode? (text : List Char) : Option (List Char) :=
  let (basic, digits) := parts text
  (decodeFrom (basic.map Char.toNat) 0x80 72 (Number.begin 0) digits).map (·.map Char.ofNat)

end Punycode
end Web
end Gallery
