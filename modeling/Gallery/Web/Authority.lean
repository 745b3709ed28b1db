import Gallery.Web.Host

namespace Gallery
namespace Web

/-!
# The authority of an address

What a user types after `url:` is taken for an address without its scheme.  Only
its authority can be wrong: the part up to the first slash, question mark or
number sign.  It holds a user part up to the last at sign, a host, and a port
after a colon outside brackets.
-/

namespace Authority

/-- Whether the character ends an authority. -/
def isEnd (c : Char) : Bool :=
  c = '/' || c = '\\' || c = '?' || c = '#'

/-- The address as it is read: without control characters and blanks at its end,
without tabs and line breaks, and without the slashes in front of it. -/
def clean (text : List Char) : List Char :=
  let trimmed := (text.reverse.dropWhile fun c => c.toNat ≤ 0x20).reverse
  (trimmed.filter fun c => c ≠ '\t' && c ≠ '\n' && c ≠ '\r').dropWhile fun c => c = '/' || c = '\\'

/-- What follows the last at sign, or all of the text without one. -/
def withoutUser (text : List Char) : List Char :=
  (text.reverse.takeWhile (· ≠ '@')).reverse

/-- The host and what follows it, where `bracketed` tells whether a bracket is
open. -/
def splitHost (bracketed : Bool) : List Char → List Char × List Char
  | [] => ([], [])
  | c :: rest =>
      if c = ':' && !bracketed then ([], c :: rest)
      else
        let nowOpen := if c = '[' then true else if c = ']' then false else bracketed
        let (host, port) := splitHost nowOpen rest
        (c :: host, port)

/-- Whether the text is empty or a colon with a port, which may be left out. -/
def isPort : List Char → Bool
  | [] => true
  | _ :: digits => digits.all Host.isDigit && (Host.inBase 10 digits).any (· ≤ 65535)

/-- Whether the address has a usable authority. -/
def isPlausible (address : List Char) : Bool :=
  let authority := withoutUser ((clean address).takeWhile (!isEnd ·))
  let (host, port) := splitHost false authority
  !host.isEmpty && Host.isHost host && isPort port

end Authority

end Web
end Gallery
