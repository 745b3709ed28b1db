import Gallery.Text.CodeSet

namespace Gallery
namespace Text

/-!
# Tables of hexadecimal numbers

The larger tables of the character database are kept as text: rows separated
by semicolons, each a list of hexadecimal numbers separated by blanks.  The text
of a table is cut into lines at any place where a number has ended.
-/

namespace Hex

/-- The value of an uppercase hexadecimal digit; other characters count zero. -/
def digit (c : Char) : Nat :=
  if c ≤ '9' then c.toNat - '0'.toNat else c.toNat - 'A'.toNat + 10

/-- Reads the rest of a table.  The finished rows, the numbers of the row being
read and the number being read are given; rows and numbers stand backwards. -/
def rowsFrom (rows : List (List Nat)) (row : List Nat) (number : Nat) :
    List Char → List (List Nat)
  | [] => ((number :: row).reverse :: rows).reverse
  | ';' :: text => rowsFrom ((number :: row).reverse :: rows) [] 0 text
  | ' ' :: text => rowsFrom rows (number :: row) 0 text
  | c :: text => rowsFrom rows row (16 * number + digit c) text

/-- The rows of a table. -/
def rows (table : List String) : List (List Nat) :=
  rowsFrom [] [] 0 (table.flatMap String.toList)

end Hex

/-- The set whose edges a table of one row lists. -/
def CodeSet.ofHex (table : List String) : CodeSet where
  edges := (Hex.rows table).flatten

end Text
end Gallery
