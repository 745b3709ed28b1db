namespace Gallery
namespace Search

/-!
# Seeded shuffle

A shuffle walks from the last place to the first and swaps each with a place
chosen among those up to it.  The choice comes from a sequence of numbers that a
seed determines, so equal seeds give equal shuffles of equally long lists.  The
chosen place is cut off at the last one allowed, whatever the number is.
-/

namespace Shuffle

/-- The place that a draw chooses among the first `bound + 1`. -/
def pick (draw : Float) (bound : Nat) : Nat :=
  min (draw * Float.ofNat (bound + 1)).floor.toUInt64.toNat bound

/-- Swaps the places below the given number, from the last to the first.  The
draws are counted on from `step`. -/
def swapDown {α : Type} (draw : Nat → Float) : Nat → Nat → Array α → Array α
  | 0, _, items => items
  | last + 1, step, items =>
      swapDown draw last (step + 1) (items.swapIfInBounds last (pick (draw step) last))

/-- Shuffles a list by a sequence of draws. -/
def withDraws {α : Type} (draw : Nat → Float) (items : List α) : List α :=
  (swapDown draw items.length 0 items.toArray).toList

/-- The sum of the UTF-16 units of a character. -/
def unitSum (c : Char) : Nat :=
  if c.toNat < 0x10000 then c.toNat
  else 0xD800 + (c.toNat - 0x10000) / 0x400 + (0xDC00 + (c.toNat - 0x10000) % 0x400)

/-- The number that a seed stands for: the sum of its UTF-16 units. -/
def seedNumber (seed : String) : Nat :=
  seed.toList.foldl (fun total c => total + unitSum c) 0

/-- The numbers that a seed determines: the fractions of a large multiple of the
sine at successive whole numbers. -/
def draws (seed : String) (step : Nat) : Float :=
  let x := Float.sin (Float.ofNat (seedNumber seed + step)) * 10000.0
  x - x.floor

end Shuffle

/-- Shuffles a list by a seed. -/
def shuffle {α : Type} (seed : String) (items : List α) : List α :=
  Shuffle.withDraws (Shuffle.draws seed) items

end Search
end Gallery
