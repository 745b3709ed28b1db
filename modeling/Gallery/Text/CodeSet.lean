namespace Gallery
namespace Text

/-!
# Sets of characters given by their edges

A character class of Unicode is a union of a few hundred intervals.  It is
kept as the increasing list of the code points at which membership flips, so
that the class, its complement and its intersections are read off one list.
-/

/-- A set of code points, written as the increasing list of its edges.  The
first edge enters the set, the second leaves it, the third enters it again. -/
structure CodeSet where
  edges : List Nat

namespace CodeSet

/-- Membership of `code` in the set with the given edges.  Edges are taken in
pairs, so each step settles one interval of the set and the gap before it. -/
def covers : List Nat → Nat → Bool
  | [], _ => false
  | [start], code => decide (start ≤ code)
  | start :: stop :: rest, code =>
      if code < start then false
      else if code < stop then true
      else covers rest code

/-- Whether the character belongs to the set. -/
def contains (set : CodeSet) (c : Char) : Bool :=
  covers set.edges c.toNat

/-- The intervals of the set, each with its last member; an unmatched last
edge runs to the end of the code space. -/
def intervals : List Nat → List (Nat × Nat)
  | [] => []
  | [start] => [(start, 0x10FFFF)]
  | start :: stop :: rest => (start, stop - 1) :: intervals rest

end CodeSet

end Text
end Gallery
