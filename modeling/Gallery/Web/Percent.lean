import Gallery.Text.Utf8

namespace Gallery
namespace Web
namespace Percent

/-!
# Percent-encoded octets

A percent sign with two hexadecimal digits stands for an octet; any other
percent sign stands for itself.
-/

/-- The value of a hexadecimal digit of either case. -/
def digit? (octet : UInt8) : Option UInt8 :=
  if 0x30 ≤ octet && octet ≤ 0x39 then some (octet - 0x30)
  else if 0x41 ≤ octet && octet ≤ 0x46 then some (octet - 0x37)
  else if 0x61 ≤ octet && octet ≤ 0x66 then some (octet - 0x57)
  else none

/-- Replaces every escape by its octet. -/
def decode : List UInt8 → List UInt8
  | [] => []
  | 0x25 :: high :: low :: rest =>
      match digit? high, digit? low with
      | some high, some low => (16 * high + low) :: decode rest
      | _, _ => 0x25 :: decode (high :: low :: rest)
  | octet :: rest => octet :: decode rest

end Percent
end Web
end Gallery
