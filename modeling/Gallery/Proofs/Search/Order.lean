import Gallery.Proofs.Search.Listing
import Gallery.Proofs.Store.Keyed
import Mathlib.Data.List.Perm.Basic

namespace Gallery

/-!
# The order of a listing

A listing is put in order three times over: by the plan, by the natural order of
titles, and by the shuffle.  None of them loses or repeats a row.  For the
shuffle this does not depend on the draws: each step swaps two places, and the
chosen place is cut off at the last one allowed, whatever number was drawn.
-/

namespace Search

namespace Shuffle

theorem swapIfInBounds_perm {α : Type} (items : Array α) (first second : Nat) :
    (items.swapIfInBounds first second).Perm items := by
  rw [Array.swapIfInBounds_def]
  split
  · split
    · exact Array.swap_perm _ _
    · exact Array.Perm.refl items
  · exact Array.Perm.refl items

theorem swapDown_perm {α : Type} (draw : Nat → Float) (places step : Nat) (items : Array α) :
    (swapDown draw places step items).Perm items := by
  induction places generalizing step items with
  | zero => exact Array.Perm.refl items
  | succ last inductionHypothesis =>
      rw [swapDown]
      exact (inductionHypothesis (step + 1) _).trans (swapIfInBounds_perm items last _)

theorem withDraws_perm {α : Type} (draw : Nat → Float) (items : List α) :
    (withDraws draw items).Perm items :=
  (swapDown_perm draw items.length 0 items.toArray).toList

end Shuffle

theorem shuffle_perm {α : Type} (seed : String) (items : List α) :
    (shuffle seed items).Perm items :=
  Shuffle.withDraws_perm (Shuffle.draws seed) items

theorem sortNaturally_perm {α : Type} (direction : Direction) (rows : List (α × String)) :
    (sortNaturally direction rows).Perm rows :=
  List.mergeSort_perm rows _

/-- Arranging rows neither loses nor repeats any. -/
theorem arrange_perm (dialect : Sql.Dialect) (request : Request) (rows : List (Int64 × String)) :
    (arrange dialect request rows).Perm rows := by
  rw [arrange]
  split
  · split
    · exact List.Perm.refl rows
    · exact sortNaturally_perm request.direction rows
  · split
    · exact shuffle_perm _ rows
    · exact List.Perm.refl rows
  · exact List.Perm.refl rows

end Search

namespace Plan

open Store (Archive)

theorem select_perm (plan : Plan) (store : Store) :
    (plan.select store).Perm (store.archives.filter (plan.holds store)) :=
  List.mergeSort_perm _ _

/-- The ids of a plan are, up to order, those of the archives that it holds of. -/
theorem ids_perm (plan : Plan) (store : Store) :
    ((plan.rows store).map Prod.fst).Perm
      ((store.archives.filter (plan.holds store)).map Archive.id) := by
  rw [rows, List.map_map]
  exact (plan.select_perm store).map Archive.id

end Plan

namespace Search

/-- The ids of a listing that a plan was made for, in its order. -/
def arrangedIds (request : Request) (plan : Plan) (store : Store) : List Int64 :=
  (arrange .sqlite request (plan.rows store)).map Prod.fst

variable (request : Request) (plan : Plan) (store : Store)

theorem arrangedIds_perm :
    (arrangedIds request plan store).Perm
      ((store.archives.filter (plan.holds store)).map Store.Archive.id) :=
  ((arrange_perm .sqlite request (plan.rows store)).map Prod.fst).trans (plan.ids_perm store)

theorem mem_arrangedIds_iff (id : Int64) :
    id ∈ arrangedIds request plan store ↔
      ∃ archive ∈ store.archives, archive.id = id ∧ plan.holds store archive = true := by
  rw [(arrangedIds_perm request plan store).mem_iff, List.mem_map]
  constructor
  · rintro ⟨archive, selected, isId⟩
    rcases List.mem_filter.mp selected with ⟨member, holds⟩
    exact ⟨archive, member, isId, holds⟩
  · rintro ⟨archive, member, isId, holds⟩
    exact ⟨archive, List.mem_filter.mpr ⟨member, holds⟩, isId⟩

theorem arrangedIds_nodup (keyed : store.Keyed) : (arrangedIds request plan store).Nodup := by
  rw [(arrangedIds_perm request plan store).nodup_iff]
  exact keyed.archives.sublist (List.filter_sublist.map Store.Archive.id)

theorem length_arrangedIds_le : (arrangedIds request plan store).length ≤ store.archives.length := by
  rw [(arrangedIds_perm request plan store).length_eq, List.length_map]
  exact List.length_filter_le _ _

end Search
end Gallery
