import Gallery.Text.Composed
import Gallery.Text.Letter
import Gallery.Web.Domain.ContextTable

namespace Gallery
namespace Web
namespace Domain

/-!
# Characters in the context of a label

A joiner is invisible, so it is allowed only where it changes the shape of the
letters around it: after a virama, or, for the non-joiner, between letters that
would otherwise join.  A name with letters of a right-to-left script is allowed
only if every label keeps to one direction.
-/

/-- Characters that join to the left. -/
def leftJoining : Text.CodeSet :=
  Text.CodeSet.ofHex leftJoiningText

/-- Characters that join to the right. -/
def rightJoining : Text.CodeSet :=
  Text.CodeSet.ofHex rightJoiningText

/-- Characters that join on both sides. -/
def dualJoining : Text.CodeSet :=
  Text.CodeSet.ofHex dualJoiningText

/-- Characters through which their neighbours join. -/
def transparent : Text.CodeSet :=
  Text.CodeSet.ofHex transparentText

/-- Whether a combining mark suppresses the vowel of the letter before it. -/
def isVirama (c : Char) : Bool :=
  Text.Composed.classOf c.toNat = 9

/-- Whether a non-joiner separates letters that would join.  The characters
before it are given backwards. -/
def separatesJoined (before after : List Char) : Bool :=
  (match before.dropWhile transparent.contains with
    | [] => false
    | c :: _ => leftJoining.contains c || dualJoining.contains c) &&
  (match after.dropWhile transparent.contains with
    | [] => false
    | c :: _ => rightJoining.contains c || dualJoining.contains c)

/-- Whether every joiner of a label stands where one is allowed.  The
characters before the rest are given backwards. -/
def joinersFrom (before : List Char) : List Char → Bool
  | [] => true
  | c :: after =>
      (if c = '\u200c' then (before.head?.any isVirama) || separatesJoined before after
       else if c = '\u200d' then before.head?.any isVirama
       else true) && joinersFrom (c :: before) after

/-- The direction classes that the rule for labels distinguishes. -/
inductive Direction where
  | left
  | right
  | arabicLetter
  | arabicNumber
  | europeanNumber
  | nonspacingMark
  | neutral
  | other
deriving DecidableEq, Repr

/-- The sets of the directions, in the order in which they are tried. -/
def directions : List (Text.CodeSet × Direction) := [
  (Text.CodeSet.ofHex leftToRightText, .left),
  (Text.CodeSet.ofHex rightToLeftText, .right),
  (Text.CodeSet.ofHex arabicLetterText, .arabicLetter),
  (Text.CodeSet.ofHex arabicNumberText, .arabicNumber),
  (Text.CodeSet.ofHex europeanNumberText, .europeanNumber),
  (Text.CodeSet.ofHex nonspacingMarkText, .nonspacingMark),
  (Text.CodeSet.ofHex europeanSeparatorText, .neutral),
  (Text.CodeSet.ofHex commonSeparatorText, .neutral),
  (Text.CodeSet.ofHex europeanTerminatorText, .neutral),
  (Text.CodeSet.ofHex otherNeutralText, .neutral),
  (Text.CodeSet.ofHex boundaryNeutralText, .neutral)]

/-- The direction of a character. -/
def directionOf (c : Char) : Direction :=
  ((directions.find? fun entry => entry.1.contains c).map Prod.snd).getD .other

/-- Whether a direction makes a whole name subject to the direction rule. -/
def Direction.isRightward : Direction → Bool
  | .right | .arabicLetter | .arabicNumber => true
  | _ => false

/-- Whether the label may stand in a name with right-to-left letters.  Its first
character fixes its direction; what may follow and what may end it depend on
that, and a right-to-left label keeps to one kind of digits. -/
def keepsDirection (label : List Char) : Bool :=
  let kinds := label.map directionOf
  let last := (kinds.reverse.dropWhile (· = .nonspacingMark)).head?
  match kinds.head? with
  | none => true
  | some .left =>
      kinds.all (fun kind =>
        kind = .left || kind = .europeanNumber || kind = .neutral || kind = .nonspacingMark) &&
      (last = some .left || last = some .europeanNumber)
  | some .right | some .arabicLetter =>
      kinds.all (fun kind => kind ≠ .left && kind ≠ .other) &&
      (match last with
        | some .right | some .arabicLetter | some .arabicNumber | some .europeanNumber => true
        | _ => false) &&
      !(kinds.contains .arabicNumber && kinds.contains .europeanNumber)
  | _ => false

end Domain
end Web
end Gallery
