import Gallery.Proofs.Search.Ranking
import Gallery.Proofs.Text.SideBySide

namespace Gallery
namespace Search

open Std (OrientedCmp TransCmp)
open Text (compareNaturally lowerEach transCmp_on)

/-!
# The sort by title

The natural order is a total preorder, so sorting by it is well defined: the titles
never go the wrong way, however far apart they stand, and rows whose titles are
naturally equal stay as they came.  The latter holds in both directions, because the
comparison is turned round and not the list.
-/

instance transCmp_titles {α : Type} (direction : Direction) :
    TransCmp fun a b : α × String => direction.apply (compareNaturally a.2 b.2) := by
  have natural := transCmp_on compareNaturally (Prod.snd : α × String → String)
  exact direction.transCmp_apply fun a b : α × String => compareNaturally a.2 b.2

/-- What is in the right order is not strictly in the wrong one. -/
theorem Direction.swap_ne_of_isLE (direction : Direction) (ordering : Ordering) :
    (direction.apply ordering).isLE = true → ordering.swap ≠ direction.apply .lt := by
  cases direction <;> cases ordering <;> decide

/-- The sort by title returns the same rows, of which none is followed by one whose title
strictly precedes its own in the direction of the sort; rows whose titles are naturally equal to
some title are left in their order.  The natural order is total and transitive on all texts, and
it is that of two texts read side by side. -/
theorem sortNaturally_is_stable {α : Type} (direction : Direction) (rows : List (α × String)) :
    (sortNaturally direction rows).Perm rows ∧
    ((sortNaturally direction rows).Pairwise fun row later =>
      compareNaturally later.2 row.2 ≠ direction.apply .lt) ∧
    (∀ title, (sortNaturally direction rows).filter
        (fun row => compareNaturally title row.2 = .eq) =
      rows.filter fun row => compareNaturally title row.2 = .eq) ∧
    TransCmp compareNaturally ∧
    ∀ a b, compareNaturally a b =
      Text.Natural.compareSideBySide (lowerEach a.toList) (lowerEach b.toList) := by
  refine ⟨sortNaturally_perm direction rows, ?_, fun title => ?_, inferInstance,
    Text.compareNaturally_eq_compareSideBySide⟩
  · refine (pairwise_mergeSort_isLE _ rows).imp fun {row later} before => ?_
    have turned : compareNaturally later.2 row.2 = (compareNaturally row.2 later.2).swap :=
      OrientedCmp.eq_swap
    rw [turned]
    exact direction.swap_ne_of_isLE _ before
  · refine filter_mergeSort_of_ties _ (fun a b tieA tieB => ?_) rows
    have same : compareNaturally a.2 b.2 = .eq :=
      TransCmp.eq_trans (OrientedCmp.eq_symm (of_decide_eq_true tieA)) (of_decide_eq_true tieB)
    exact Direction.apply_eq_eq_iff.mpr same

end Search
end Gallery
