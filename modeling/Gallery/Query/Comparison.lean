namespace Gallery

/-!
# Comparisons

The five ways in which a number filter compares an archive's number with its
own.  The symbol of a comparison is the same in a query and in a statement.
-/

/-- A comparison of two numbers. -/
inductive Comparison where
  | greater
  | less
  | equal
  | atLeast
  | atMost
deriving DecidableEq, Repr

namespace Comparison

/-- All comparisons. -/
def all : List Comparison :=
  [.greater, .less, .equal, .atLeast, .atMost]

/-- The written form of a comparison. -/
def symbol : Comparison → String
  | .greater => ">"
  | .less => "<"
  | .equal => "="
  | .atLeast => ">="
  | .atMost => "<="

/-- The comparison with the given symbol. -/
def ofSymbol? (text : String) : Option Comparison :=
  all.find? fun c => c.symbol = text

/-- Whether `x` compares with `y` in the given way. -/
def holds (c : Comparison) (x y : Int) : Bool :=
  match c with
  | .greater => y < x
  | .less => x < y
  | .equal => x = y
  | .atLeast => y ≤ x
  | .atMost => x ≤ y

end Comparison

end Gallery
