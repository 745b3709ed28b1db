import Gallery.Search.Page
import Mathlib.Data.List.Basic
import Mathlib.Order.Lattice
import Mathlib.Tactic.Common

namespace Gallery
namespace Search

/-!
# The positions of a page

A page is a slice of a list, and which positions it holds is a matter of plain
arithmetic.  The number of elements before it is cut off at the largest 64-bit number,
but no list is long enough to tell: where the cut-off makes a difference, both numbers
lie behind the end.

A list may hold one element several times.  So where it matters on which page an
element stands, the list is numbered first, and the pages of the numbered list are
looked at.
-/

/-- Whether a position belongs to a page.  Page zero is the first page too. -/
def OnPage (page limit : UInt64) (position : Nat) : Prop :=
  (max page.toNat 1 - 1) * limit.toNat ≤ position ∧ position < max page.toNat 1 * limit.toNat

instance (page limit : UInt64) : DecidablePred (OnPage page limit) :=
  fun position => inferInstanceAs (Decidable
    ((max page.toNat 1 - 1) * limit.toNat ≤ position ∧ position < max page.toNat 1 * limit.toNat))

theorem toNat_pos_of_ne_zero {limit : UInt64} (nonzero : limit ≠ 0) : 0 < limit.toNat := by
  refine Nat.pos_of_ne_zero fun zero => nonzero ?_
  exact UInt64.toNat_inj.mp zero

/-- The page of a position is its quotient by the limit, counted from one. -/
theorem onPage_iff {limit : UInt64} (nonzero : limit ≠ 0) (page : UInt64) (position : Nat) :
    OnPage page limit position ↔ max page.toNat 1 = position / limit.toNat + 1 := by
  have positive := toNat_pos_of_ne_zero nonzero
  have first : 1 ≤ max page.toNat 1 := Nat.le_max_right _ _
  rw [OnPage, ← Nat.le_div_iff_mul_le positive, ← Nat.div_lt_iff_lt_mul positive]
  omega

section Slices

variable {α : Type} {items : List α} {limit : UInt64}

/-- Elements that are chosen by a range of positions are a slice. -/
theorem filter_eq_slice {kept : α → Bool} {first count : Nat}
    (chosen : ∀ (index : Nat) (inRange : index < items.length),
      kept items[index] = true ↔ first ≤ index ∧ index < first + count) :
    items.filter kept = (items.drop first).take count := by
  have before : (items.take first).filter kept = [] := by
    refine List.filter_eq_nil_iff.mpr fun item member isKept => ?_
    rcases List.mem_take_iff_getElem.mp member with ⟨index, inRange, rfl⟩
    have := (chosen index (by omega)).mp isKept
    omega
  have on : ((items.drop first).take count).filter kept = (items.drop first).take count := by
    refine List.filter_eq_self.mpr fun item member => ?_
    rcases List.mem_take_iff_getElem.mp member with ⟨index, inRange, rfl⟩
    rw [List.length_drop] at inRange
    rw [List.getElem_drop]
    exact (chosen _ (by omega)).mpr (by omega)
  have behind : ((items.drop first).drop count).filter kept = [] := by
    rw [List.drop_drop]
    refine List.filter_eq_nil_iff.mpr fun item member isKept => ?_
    rcases List.mem_drop_iff_getElem.mp member with ⟨index, inRange, rfl⟩
    have := (chosen _ (by omega)).mp isKept
    omega
  calc items.filter kept
      = (items.take first ++ ((items.drop first).take count ++
          (items.drop first).drop count)).filter kept := by
        rw [List.take_append_drop, List.take_append_drop]
    _ = (items.drop first).take count := by
        rw [List.filter_append, List.filter_append, before, on, behind, List.nil_append,
          List.append_nil]

/-- No list is long enough for the cut-off of its page starts. -/
theorem drop_pageStart (short : items.length < UInt64.size) (page limit : UInt64) :
    items.drop (pageStart page limit) = items.drop ((max page.toNat 1 - 1) * limit.toNat) := by
  unfold pageStart
  rcases Nat.le_total ((max page.toNat 1 - 1) * limit.toNat) (UInt64.size - 1) with within | beyond
  · rw [Nat.min_eq_left within]
  · rw [Nat.min_eq_right beyond, List.drop_eq_nil_of_le (by omega),
      List.drop_eq_nil_of_le (by omega)]

theorem paginate_eq_slice (short : items.length < UInt64.size) (nonzero : limit ≠ 0)
    (page : UInt64) :
    paginate items page limit =
      (items.drop ((max page.toNat 1 - 1) * limit.toNat)).take limit.toNat := by
  rw [paginate, if_neg nonzero, drop_pageStart short]

/-- A page of a list is the same page of the numbered list without the numbers. -/
theorem map_paginate_zipIdx (items : List α) (page limit : UInt64) :
    (paginate items.zipIdx page limit).map Prod.fst = paginate items page limit := by
  unfold paginate
  split
  · exact List.zipIdx_map_fst 0 items
  · rw [List.map_take, List.map_drop, List.zipIdx_map_fst]

/-- A page of a numbered list holds the elements at its positions. -/
theorem paginate_zipIdx (short : items.length < UInt64.size) (nonzero : limit ≠ 0)
    (page : UInt64) :
    paginate items.zipIdx page limit =
      items.zipIdx.filter fun entry => OnPage page limit entry.2 := by
  have numbered : items.zipIdx.length < UInt64.size := by
    rwa [List.length_zipIdx]
  rw [paginate_eq_slice numbered nonzero]
  refine (filter_eq_slice fun index inRange => ?_).symm
  have end_eq : (max page.toNat 1 - 1) * limit.toNat + limit.toNat =
      max page.toNat 1 * limit.toNat := by
    rw [← Nat.succ_mul, Nat.succ_eq_add_one, Nat.sub_add_cancel (Nat.le_max_right _ _)]
  rw [List.getElem_zipIdx, decide_eq_true_eq, end_eq, Nat.zero_add]
  exact Iff.rfl

end Slices

/-- Without a limit, a page is the whole list.  With one, it holds exactly the elements at
its positions, however large the numbers are, and every element of the list is on exactly
one page. -/
theorem pages_hold_their_positions {α : Type} {items : List α}
    (short : items.length < UInt64.size) (limit : UInt64) :
    (limit = 0 → ∀ page, paginate items page limit = items) ∧
    (limit ≠ 0 →
      (∀ page, paginate items page limit =
        (items.zipIdx.filter fun entry => OnPage page limit entry.2).map Prod.fst) ∧
      ∀ entry ∈ items.zipIdx, ∃ number : UInt64, number ≠ 0 ∧
        ∀ page, entry ∈ paginate items.zipIdx page limit ↔ max page 1 = number) := by
  refine ⟨fun unlimited page => if_pos unlimited, fun nonzero => ⟨fun page => ?_, ?_⟩⟩
  · rw [← map_paginate_zipIdx, paginate_zipIdx short nonzero]
  · intro entry member
    have inside : entry.2 < items.length := List.snd_lt_of_mem_zipIdx member
    have quotient : entry.2 / limit.toNat ≤ entry.2 := Nat.div_le_self _ _
    -- Even with a limit of one, the last page has a 64-bit number.
    have number : (UInt64.ofNat (entry.2 / limit.toNat + 1)).toNat = entry.2 / limit.toNat + 1 :=
      UInt64.toNat_ofNat_of_lt' (by omega)
    refine ⟨UInt64.ofNat (entry.2 / limit.toNat + 1), fun zero => ?_, fun page => ?_⟩
    · rw [zero] at number
      exact Nat.succ_ne_zero _ number.symm
    · rw [paginate_zipIdx short nonzero, List.mem_filter, decide_eq_true_eq, onPage_iff nonzero,
        ← UInt64.toNat_inj, number, UInt64.toNat_max]
      exact and_iff_right member

/-- The theorem at work on three ids: the last one stands on one page only, on a page whose
true start is beyond the cut-off there is nothing, and without a limit all stand together. -/
theorem threeIds_on_pages :
    ([10, 20, 30] : List Int64).length < UInt64.size ∧ (2 : UInt64) ≠ 0 ∧
      paginate ([10, 20, 30] : List Int64) 5 0 = [10, 20, 30] ∧
      paginate ([10, 20, 30] : List Int64) 9223372036854775809 2 = [] ∧
      ∃ number : UInt64, number ≠ 0 ∧
        ∀ page, ((30 : Int64), 2) ∈ paginate ([10, 20, 30] : List Int64).zipIdx page 2 ↔
          max page 1 = number := by
  have short : ([10, 20, 30] : List Int64).length < UInt64.size := by decide
  have nonzero : (2 : UInt64) ≠ 0 := by decide
  have pages := (pages_hold_their_positions short 2).2 nonzero
  refine ⟨short, nonzero, (pages_hold_their_positions short 0).1 rfl 5, ?_, pages.2 _ (by decide)⟩
  rw [pages.1]
  decide +kernel

end Search
end Gallery
