import Gallery.Proofs.Plan.Counts
import Mathlib.Data.List.Nodup

namespace Gallery
namespace Plan

/-!
# The labels of joins

Filters on namespaces ask for a join each, and the labels of these joins are numbered.  A
join is added to a plan unless it is there already; a join with a new label never is.  So
the joins on the tags of one namespace stand in a plan as the filters ask for them, one for
each filter and in order, and the counts of namespaces have the same labels.
-/

open Query (NumberFilter)

/-- The label of a join. -/
def CountJoin.label? : CountJoin → Option String
  | .tagsIn name _ => some name
  | .tags | .sources => none

/-- The label of what is counted. -/
def Having.label? (having : Having) : Option String :=
  match having.target with
  | .tagsIn name => some name
  | .tags | .sources => none

/-! ## What filters ask for -/

/-- The namespace whose tags a filter counts, if it counts those of one. -/
def countedNamespace? (filter : NumberFilter) : Option String :=
  match filter.subject with
  | .namespaceCount name => some name
  | .pages | .size | .tagCount | .sourceCount => none

/-- The joins on the tags of one namespace that filters ask for, when the next one has the given
number. -/
def namespaceJoins (number : Nat) (filters : List NumberFilter) : List CountJoin :=
  ((filters.filterMap countedNamespace?).zipIdx number).map fun counted =>
    .tagsIn (label counted.2) counted.1

theorem filter_requestedJoins (number : Nat) (filters : List NumberFilter) :
    ((requestedJoins number filters).filter fun join => join.label?.isSome) =
      namespaceJoins number filters := by
  induction filters generalizing number with
  | nil => rfl
  | cons filter others inductionHypothesis =>
      rcases filter with ⟨subject, comparison, value⟩
      cases subject with
      | pages | size | tagCount | sourceCount => exact inductionHypothesis number
      | namespaceCount name =>
          exact congrArg (.tagsIn (label number) name :: ·) (inductionHypothesis (number + 1))

theorem nodup_namespaceJoins (number : Nat) (filters : List NumberFilter) :
    (namespaceJoins number filters).Nodup := by
  have distinct : ((filters.filterMap countedNamespace?).zipIdx number).Nodup := by
    refine List.Nodup.of_map Prod.snd ?_
    rw [List.zipIdx_map_snd]
    exact List.nodup_range'
  refine distinct.map fun first second same => ?_
  rcases CountJoin.tagsIn.inj same with ⟨labels, names⟩
  exact Prod.ext names (label_injective labels)

theorem labels_namespaceJoins (number : Nat) (filters : List NumberFilter) :
    (namespaceJoins number filters).filterMap CountJoin.label? =
      (List.range' number (filters.filterMap countedNamespace?).length).map label := by
  rw [namespaceJoins, List.filterMap_map, ← List.zipIdx_map_snd, List.map_map,
    ← List.filterMap_eq_map]
  rfl

/-! ## What a plan has -/

/-- Joins of one kind that are asked for once each are added as they are asked for. -/
theorem filter_foldl_ensureJoin {kept : CountJoin → Bool} (requested : List CountJoin)
    {joins : List CountJoin} (distinct : (joins.filter kept ++ requested.filter kept).Nodup) :
    (requested.foldl ensureJoin joins).filter kept =
      joins.filter kept ++ requested.filter kept := by
  induction requested generalizing joins with
  | nil => exact (List.append_nil _).symm
  | cons join others inductionHypothesis =>
      have added : (ensureJoin joins join).filter kept ++ others.filter kept =
          joins.filter kept ++ (join :: others).filter kept := by
        rw [ensureJoin]
        split
        · rename_i present
          -- A join that is there already is not of this kind, or it would be asked for twice.
          have unkept : kept join = false := by
            rw [Bool.eq_false_iff]
            intro isKept
            refine (List.nodup_append.mp distinct).2.2 join ?_ join ?_ rfl
            · exact List.mem_filter.mpr ⟨List.contains_iff_mem.mp present, isKept⟩
            · exact List.mem_filter.mpr ⟨List.mem_cons_self, isKept⟩
          rw [List.filter_cons_of_neg (Bool.not_eq_true _ ▸ unkept)]
        · rw [List.filter_append, List.append_assoc, ← List.filter_append, List.singleton_append]
      rw [← added] at distinct ⊢
      exact inductionHypothesis distinct

theorem filterMap_label? (joins : List CountJoin) :
    (joins.filter fun join => join.label?.isSome).filterMap CountJoin.label? =
      joins.filterMap CountJoin.label? := by
  rw [List.filterMap_filter]
  refine congrArg (List.filterMap · joins) (funext fun join => ?_)
  cases join.label? <;> rfl

/-- The labels of the joins of a plan are those from the first one on, in order. -/
theorem labels_joins (filters : List NumberFilter) :
    ((requestedJoins 0 filters).foldl ensureJoin []).filterMap CountJoin.label? =
      (List.range' 0 (filters.filterMap countedNamespace?).length).map label := by
  have distinct : (([] : List CountJoin).filter (fun join => join.label?.isSome) ++
      (requestedJoins 0 filters).filter fun join => join.label?.isSome).Nodup := by
    rw [filter_requestedJoins]
    exact nodup_namespaceJoins 0 filters
  rw [← filterMap_label?, filter_foldl_ensureJoin _ distinct, List.filter_nil, List.nil_append,
    filter_requestedJoins, labels_namespaceJoins]

theorem labels_having (filters : List NumberFilter) (number : Nat) :
    ((countsFrom number filters).map Count.having).filterMap Having.label? =
      (List.range' number (filters.filterMap countedNamespace?).length).map label := by
  induction filters generalizing number with
  | nil => rfl
  | cons filter others inductionHypothesis =>
      rcases filter with ⟨subject, comparison, value⟩
      cases subject with
      | pages | size | tagCount | sourceCount => exact inductionHypothesis number
      | namespaceCount name =>
          exact congrArg (label number :: ·) (inductionHypothesis (number + 1))

end Plan
end Gallery
