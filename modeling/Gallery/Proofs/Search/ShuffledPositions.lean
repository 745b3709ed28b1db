import Gallery.Proofs.Search.Order
import Mathlib.Data.List.OfFn
import Mathlib.Logic.Equiv.Basic

namespace Gallery
namespace Search
namespace Shuffle

/-!
# A shuffle moves positions

A shuffle is a list of swaps of places, one for each element.  Which places are
swapped follows from the draws and from the length of the list, so every list of
that length has its positions moved in the same way, whatever its elements are.

Nothing is assumed of the draws: a place is cut off at the last one allowed after
it has been computed, so neither a fraction that has become one nor a negative
number nor no number at all leads outside the list.
-/

/-! ## Steps -/

theorem pick_le (draw : Float) (bound : Nat) : pick draw bound ≤ bound :=
  Nat.min_le_right _ _

/-- The swaps of the places below the given number, from the last one down: each place
with the place that is chosen for it. -/
def swaps (draw : Nat → Float) : Nat → Nat → List (Nat × Nat)
  | 0, _ => []
  | last + 1, step => (last, pick (draw step) last) :: swaps draw last (step + 1)

/-- Swaps places one pair after the other. -/
def swapAll {α : Type} (pairs : List (Nat × Nat)) (items : Array α) : Array α :=
  pairs.foldl (fun items pair => items.swapIfInBounds pair.1 pair.2) items

theorem swapDown_eq_swapAll {α : Type} (draw : Nat → Float) (places step : Nat)
    (items : Array α) :
    swapDown draw places step items = swapAll (swaps draw places step) items := by
  induction places generalizing step items with
  | zero => rfl
  | succ last inductionHypothesis => exact inductionHypothesis (step + 1) _

/-- There is one step for each place. -/
theorem map_fst_swaps (draw : Nat → Float) (places step : Nat) :
    (swaps draw places step).map Prod.fst = (List.range places).reverse := by
  induction places generalizing step with
  | zero => rfl
  | succ last inductionHypothesis =>
      rw [swaps, List.map_cons, inductionHypothesis, List.range_succ, List.reverse_append]
      rfl

/-- No place is swapped with a later one. -/
theorem within_of_mem_swaps {draw : Nat → Float} {places step : Nat} {pair : Nat × Nat}
    (member : pair ∈ swaps draw places step) : pair.2 < pair.1 + 1 ∧ pair.1 < places := by
  induction places generalizing step with
  | zero => cases member
  | succ last inductionHypothesis =>
      rcases List.mem_cons.mp member with rfl | later
      · exact ⟨Nat.lt_succ_of_le (pick_le _ _), Nat.lt_succ_self last⟩
      · have within := inductionHypothesis later
        exact ⟨within.1, Nat.lt_succ_of_lt within.2⟩

/-! ## Positions -/

/-- Swapping two elements is swapping their positions. -/
theorem swapIfInBounds_ofFn {α : Type} {length : Nat} (items : Fin length → α)
    (first second : Fin length) :
    (Array.ofFn items).swapIfInBounds first second =
      Array.ofFn (items ∘ Equiv.swap first second) := by
  apply Array.ext
  · rw [Array.size_swapIfInBounds, Array.size_ofFn, Array.size_ofFn]
  · intro place inSwapped inMoved
    simp only [Array.getElem_swapIfInBounds, Array.getElem_ofFn, Array.size_ofFn, Fin.is_lt,
      and_true, Function.comp_apply, Equiv.swap_apply_def, Fin.ext_iff]
    split
    · rfl
    · split <;> rfl

/-- The steps of a shuffle move the positions of all lists of one length alike. -/
theorem exists_positions_swapDown (draw : Nat → Float) {places length : Nat}
    (within : places ≤ length) (step : Nat) :
    ∃ positions : Equiv.Perm (Fin length), ∀ (α : Type) (items : Fin length → α),
      swapDown draw places step (Array.ofFn items) = Array.ofFn (items ∘ positions) := by
  induction places generalizing step with
  | zero => exact ⟨Equiv.refl _, fun _ _ => rfl⟩
  | succ last inductionHypothesis =>
      rcases inductionHypothesis (Nat.le_of_succ_le within) (step + 1) with ⟨later, moves⟩
      let place : Fin length := ⟨last, within⟩
      let chosen : Fin length :=
        ⟨pick (draw step) last, Nat.lt_of_le_of_lt (pick_le _ _) within⟩
      refine ⟨later.trans (Equiv.swap place chosen), fun α items => ?_⟩
      calc
        swapDown draw (last + 1) step (Array.ofFn items) =
            swapDown draw last (step + 1) (Array.ofFn (items ∘ Equiv.swap place chosen)) :=
          congrArg _ (swapIfInBounds_ofFn items place chosen)
        _ = Array.ofFn ((items ∘ Equiv.swap place chosen) ∘ later) := moves α _

theorem exists_positions (draw : Nat → Float) (length : Nat) :
    ∃ positions : Equiv.Perm (Fin length), ∀ (α : Type) (items : Fin length → α),
      withDraws draw (List.ofFn items) = List.ofFn (items ∘ positions) := by
  rcases exists_positions_swapDown draw (Nat.le_refl length) 0 with ⟨positions, moves⟩
  refine ⟨positions, fun α items => ?_⟩
  rw [withDraws, List.length_ofFn, List.toArray_ofFn, moves, Array.toList_ofFn]

/-- What is done to the elements does not matter to a shuffle. -/
theorem withDraws_map {α β : Type} (draw : Nat → Float) (f : α → β) (items : List α) :
    withDraws draw (items.map f) = (withDraws draw items).map f := by
  rcases exists_positions draw items.length with ⟨positions, moves⟩
  have listed : items = List.ofFn items.get := (List.ofFn_get items).symm
  calc
    withDraws draw (items.map f) = withDraws draw (List.ofFn (f ∘ items.get)) := by
      rw [← List.map_ofFn, ← listed]
    _ = (List.ofFn (items.get ∘ positions)).map f := by
      rw [moves, List.map_ofFn]
      rfl
    _ = (withDraws draw items).map f := by
      rw [← moves, ← listed]

/-- Whatever numbers are drawn, a shuffle takes one step for each element, and each step
swaps a place of the list with one that is no later.  Its steps together are a permutation of
the positions that depends on the draws and the length alone.  So the result has the elements
of the list, each as often as before, and elements may be replaced before or after. -/
theorem shuffle_permutes_positions (draw : Nat → Float) (length : Nat) :
    (swaps draw length 0).map Prod.fst = (List.range length).reverse ∧
    (∀ pair ∈ swaps draw length 0, pair.2 < pair.1 + 1 ∧ pair.1 < length) ∧
    (∃ positions : Equiv.Perm (Fin length), ∀ (α : Type) (items : Fin length → α),
      withDraws draw (List.ofFn items) = List.ofFn (items ∘ positions)) ∧
    (∀ (α : Type) (items : List α),
      withDraws draw items = (swapAll (swaps draw items.length 0) items.toArray).toList ∧
      (withDraws draw items).Perm items ∧
      ∀ (β : Type) (f : α → β), withDraws draw (items.map f) = (withDraws draw items).map f) ∧
    ∀ (seed : String) (α : Type) (items : List α),
      shuffle seed items = withDraws (draws seed) items := by
  refine ⟨map_fst_swaps draw length 0, fun pair => within_of_mem_swaps,
    exists_positions draw length, fun α items => ⟨?_, withDraws_perm draw items, fun β f =>
      withDraws_map draw f items⟩, fun seed α items => rfl⟩
  rw [withDraws, swapDown_eq_swapAll]

end Shuffle
end Search
end Gallery
