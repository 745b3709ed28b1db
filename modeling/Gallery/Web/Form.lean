import Gallery.Text.Split
import Gallery.Web.Percent

namespace Gallery
namespace Web
namespace Form

/-!
# Forms in a query string

A form is a list of pairs separated by ampersands.  A plus stands for a blank,
escaped octets are read as UTF-8, and malformed octets become replacement
characters, so every text is a form.  Of repeated keys the last one counts.
-/

/-- The text that the characters of a key or a value stand for. -/
def decode (text : List Char) : String :=
  let octets := Text.Utf8.encode (text.map fun c => if c = '+' then ' ' else c)
  String.ofList (Text.Utf8.decodeLossy (Percent.decode octets))

/-- The key and the value of one pair; without an equals sign the value is
empty. -/
def pair (text : List Char) : String × String :=
  (decode (text.takeWhile (· ≠ '=')), decode ((text.dropWhile (· ≠ '=')).drop 1))

/-- The pairs of a query string, in order. -/
def pairs (query : String) : List (String × String) :=
  ((Text.split (· = '&') query.toList).filter (!·.isEmpty)).map pair

/-- The value of a key, which is that of its last pair. -/
def value? (form : List (String × String)) (key : String) : Option String :=
  form.reverse.lookup key

end Form
end Web
end Gallery
