namespace Gallery
namespace Search

/-!
# Pages of a list

Pages are counted from one, and page zero is the first page too.  A limit of
zero asks for the whole list.  The number of elements before a page is cut off
at the largest 64-bit number, beyond which no list reaches.
-/

/-- The number of elements before a page. -/
def pageStart (page limit : UInt64) : Nat :=
  min ((max page.toNat 1 - 1) * limit.toNat) (UInt64.size - 1)

/-- The elements of a page. -/
def paginate {α : Type} (items : List α) (page limit : UInt64) : List α :=
  if limit = 0 then items else (items.drop (pageStart page limit)).take limit.toNat

end Search
end Gallery
