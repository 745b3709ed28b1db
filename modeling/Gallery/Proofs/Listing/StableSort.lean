import Mathlib.Data.List.Sort

namespace Gallery

open Std (OrientedCmp ReflCmp TransCmp)

/-!
# Stable sorts

A sort by a comparison leaves ties in the order in which they came.  So it is settled
by two things: the list is sorted, and of the elements that tie with any given one it
has the same as before, in the same places relative to each other.  Whatever treats
ties alike can be done before the sort or after it.
-/

section StableSort

variable {α : Type}

theorem isLE_total (order : α → α → Ordering) [OrientedCmp order] (a b : α) :
    ((order a b).isLE || (order b a).isLE) = true := by
  have turned : order b a = (order a b).swap := OrientedCmp.eq_swap
  rw [turned]
  cases order a b <;> rfl

private theorem isLE_trans (order : α → α → Ordering) [TransCmp order] (a b c : α)
    (before : (order a b).isLE = true) (after : (order b c).isLE = true) :
    (order a c).isLE = true :=
  TransCmp.isLE_trans before after

theorem pairwise_mergeSort_isLE (order : α → α → Ordering) [TransCmp order] (items : List α) :
    (items.mergeSort fun a b => (order a b).isLE).Pairwise fun a b => (order a b).isLE = true :=
  List.pairwise_mergeSort (isLE_trans order) (isLE_total order) items

/-- A list that is sorted once and then sorted anew is sorted by both comparisons:
the earlier one decides what the later one leaves equal. -/
theorem pairwise_mergeSort_then (order earlier : α → α → Ordering) [TransCmp order]
    [ReflCmp earlier] {items : List α}
    (sorted : items.Pairwise fun a b => (earlier a b).isLE = true) :
    (items.mergeSort fun a b => (order a b).isLE).Pairwise
      fun a b => ((order a b).then (earlier a b)).isLE = true := by
  -- The sort leaves equals in their places, so it sorts the items together with these.
  have placed := List.pairwise_mergeSort (List.zipIdxLE_trans (isLE_trans order))
    (List.zipIdxLE_total (isLE_total order)) items.zipIdx
  rw [← List.mergeSort_zipIdx, List.pairwise_map]
  refine placed.imp_of_mem fun {a b} inA inB before => ?_
  rcases List.mem_zipIdx' (List.mem_mergeSort.mp inA) with ⟨boundA, isA⟩
  rcases List.mem_zipIdx' (List.mem_mergeSort.mp inB) with ⟨boundB, isB⟩
  have inOrder : a.2 ≤ b.2 → (earlier a.1 b.1).isLE = true := by
    intro places
    rw [isA, isB]
    rcases Nat.lt_or_eq_of_le places with less | same
    · exact List.pairwise_iff_getElem.mp sorted a.2 b.2 boundA boundB less
    · simp only [same, ReflCmp.isLE_rfl]
  have turned : order b.1 a.1 = (order a.1 b.1).swap := OrientedCmp.eq_swap
  rw [List.zipIdxLE, turned] at before
  cases compared : order a.1 b.1 with
  | lt => rfl
  | gt =>
      rw [compared] at before
      cases before
  | eq =>
      rw [compared] at before
      exact inOrder (of_decide_eq_true before)

/-! ## Ties -/

variable (order : α → α → Ordering) [TransCmp order]

/-- What a sort finds equal stays as it was. -/
theorem filter_mergeSort_of_ties {tied : α → Bool}
    (ties : ∀ b c, tied b = true → tied c = true → order b c = .eq) (items : List α) :
    (items.mergeSort fun b c => (order b c).isLE).filter tied = items.filter tied := by
  have sorted : (items.filter tied).Pairwise fun b c => (order b c).isLE = true := by
    refine List.pairwise_filter.mpr (List.pairwise_of_forall fun b c tiedB tiedC => ?_)
    rw [ties b c tiedB tiedC]
    rfl
  have kept := (List.sublist_mergeSort (isLE_trans order) (isLE_total order) sorted
    List.filter_sublist).filter tied
  rw [List.filter_filter] at kept
  simp only [Bool.and_self] at kept
  exact (kept.eq_of_length ((List.mergeSort_perm items _).filter _).length_eq.symm).symm

variable {order}

omit [TransCmp order] in
theorem filter_ties_cons {a b : α} (tie : order a b = .eq) (rest : List α) :
    (b :: rest).filter (fun c => order a c = .eq) = b :: rest.filter fun c => order a c = .eq :=
  List.filter_cons_of_pos (decide_eq_true tie)

theorem mem_iff_of_ties {first second : List α}
    (ties : ∀ a, first.filter (fun b => order a b = .eq) =
      second.filter fun b => order a b = .eq) (a : α) : a ∈ first ↔ a ∈ second := by
  have own : order a a = .eq := ReflCmp.compare_self
  have tied := congrArg (a ∈ ·) (ties a)
  simpa only [List.mem_filter, own, decide_true, and_true, eq_iff_iff] using tied

/-- Nothing comes before the first element of a sorted list. -/
theorem isLE_head {first later : α} {items : List α}
    (sorted : (first :: items).Pairwise fun a b => (order a b).isLE = true)
    (member : later ∈ first :: items) : (order first later).isLE = true := by
  rcases List.mem_cons.mp member with rfl | inItems
  · exact ReflCmp.isLE_rfl
  · exact (List.pairwise_cons.mp sorted).1 later inItems

/-- A sorted list is determined by what ties in it. -/
theorem eq_of_ties {first second : List α}
    (sortedFirst : first.Pairwise fun a b => (order a b).isLE = true)
    (sortedSecond : second.Pairwise fun a b => (order a b).isLE = true)
    (ties : ∀ a, first.filter (fun b => order a b = .eq) =
      second.filter fun b => order a b = .eq) : first = second := by
  have members := mem_iff_of_ties ties
  induction first generalizing second with
  | nil => exact (List.eq_nil_iff_forall_not_mem.mpr fun a member =>
      List.not_mem_nil ((members a).mpr member)).symm
  | cons a rest inductionHypothesis =>
      cases second with
      | nil => exact absurd ((members a).mp List.mem_cons_self) List.not_mem_nil
      | cons b others =>
          -- Each of the two first elements stands somewhere in the other list, so they tie.
          have tie : order a b = .eq := by
            refine OrientedCmp.isLE_antisymm ?_ ?_
            · exact isLE_head sortedFirst ((members b).mpr List.mem_cons_self)
            · exact isLE_head sortedSecond ((members a).mp List.mem_cons_self)
          have same : a = b := by
            have tied := ties a
            rw [filter_ties_cons ReflCmp.compare_self, filter_ties_cons tie] at tied
            exact (List.cons.inj tied).1
          subst same
          have later : ∀ c, rest.filter (fun d => order c d = .eq) =
              others.filter fun d => order c d = .eq := by
            intro c
            have tied := ties c
            rw [List.filter_cons, List.filter_cons] at tied
            split at tied
            · exact (List.cons.inj tied).2
            · exact tied
          rw [inductionHypothesis (List.pairwise_cons.mp sortedFirst).2
            (List.pairwise_cons.mp sortedSecond).2 later (mem_iff_of_ties later)]

/-- Elements may be left out before a sort or after it. -/
theorem filter_mergeSort (kept : α → Bool) (items : List α) :
    (items.mergeSort fun a b => (order a b).isLE).filter kept =
      (items.filter kept).mergeSort fun a b => (order a b).isLE := by
  refine eq_of_ties ((pairwise_mergeSort_isLE order items).filter kept)
    (pairwise_mergeSort_isLE order _) fun a => ?_
  have swapped : ∀ rows : List α, (rows.filter kept).filter (fun b => order a b = .eq) =
      (rows.filter fun b => order a b = .eq).filter kept := by
    intro rows
    rw [List.filter_filter, List.filter_filter]
    exact List.filter_congr fun b _ => Bool.and_comm _ _
  have tied : ∀ b c, decide (order a b = .eq) = true → decide (order a c = .eq) = true →
      order b c = .eq := fun b c tieB tieC =>
    TransCmp.eq_trans (OrientedCmp.eq_symm (of_decide_eq_true tieB)) (of_decide_eq_true tieC)
  rw [swapped, filter_mergeSort_of_ties order tied, filter_mergeSort_of_ties order tied, swapped]

end StableSort

end Gallery
