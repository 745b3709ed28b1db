import Gallery.Proofs.Plan.JoinedCounts
import Gallery.Proofs.Plan.Similar

namespace Gallery
namespace Plan

open Query (NumberFilter)
open Sql (Dialect)

/-!
# The structure of a plan

A plan takes its joins from the counts that ask for them, the labels from a counter of
their own, and the statement writes the joins in another order than the plan has them.
Whatever the query is, these fit together: each count finds its join, by a label that
no other join has, and a join that hangs on another one is written after it.

The joins on the tags of one namespace stand in the plan in the order of the filters that
ask for them, and so do the counts.  So both have the same labels, and what is left to see
is that the join with the label of a count is limited to the namespace of its filter.
-/

/-! ## The joins of a plan -/

theorem Separate.perm_orderedJoins {joins : List CountJoin} (separate : Separate joins) :
    (orderedJoins joins).Perm joins :=
  (List.perm_ext_iff_of_nodup separate.nodup_orderedJoins separate.distinct).mpr
    fun _ => mem_orderedJoins

theorem exists_fragments_of_joins (plan : Plan) (dialect : Dialect) :
    ∃ rest, plan.fragments dialect = .raw "SELECT archives.id, archives.title FROM archives" ::
      ((orderedJoins plan.joins).flatMap CountJoin.fragments ++ rest) :=
  ⟨conjunction " WHERE " (plan.writtenConditions dialect) ++
      ((if plan.needsGrouping then [.raw " GROUP BY archives.id"] else []) ++
        (conjunction " HAVING " (plan.having.map Having.fragments) ++ [plan.orderFragment dialect])),
    by simp only [fragments, List.append_assoc]⟩

/-- A label that is used for one namespace only belongs to one join. -/
theorem Separate.filter_label {joins : List CountJoin} (separate : Separate joins)
    {name scope : String} (member : .tagsIn name scope ∈ joins) :
    (joins.filter fun join => join.label? = some name) = [.tagsIn name scope] := by
  refine List.perm_singleton.mp ((List.perm_ext_iff_of_nodup (separate.distinct.filter _)
    (List.nodup_singleton _)).mpr fun join => ?_)
  rw [List.mem_filter, List.mem_singleton, decide_eq_true_eq]
  constructor
  · rintro ⟨inJoins, labelled⟩
    cases join with
    | tags | sources => cases labelled
    | tagsIn other otherScope =>
        cases labelled
        rw [separate.unique inJoins member]
  · rintro rfl
    exact ⟨member, rfl⟩

/-! ## The counts of a plan -/

/-- Whether a filter is a condition on a count and not on a column. -/
def takesCount (filter : NumberFilter) : Bool :=
  match filter.subject with
  | .pages | .size => false
  | .tagCount | .sourceCount | .namespaceCount _ => true

/-- Whether a condition on a count says what a filter says.  It compares alike with the same
number, and it counts what the filter counts; for a namespace, its label belongs to one join and
that join is limited to the namespace. -/
def Having.IsCountFor (joins : List CountJoin) (filter : NumberFilter) (having : Having) : Prop :=
  having.comparison = filter.comparison ∧ having.value = filter.value ∧
    match filter.subject with
    | .tagCount => having.target = .tags
    | .sourceCount => having.target = .sources
    | .namespaceCount name => ∃ label, having.target = .tagsIn label ∧
        (joins.filter fun join => join.label? = some label) = [.tagsIn label name]
    | .pages | .size => False

theorem forall₂_isCountFor {joins : List CountJoin} (separate : Separate joins) {number : Nat}
    {filters : List NumberFilter} (present : requestedJoins number filters ⊆ joins) :
    List.Forall₂ (fun filter having => Having.IsCountFor joins filter having)
      (filters.filter takesCount) ((countsFrom number filters).map Count.having) := by
  induction filters generalizing number with
  | nil => exact List.Forall₂.nil
  | cons filter others inductionHypothesis =>
      rcases filter with ⟨subject, comparison, value⟩
      cases subject with
      | pages | size => exact inductionHypothesis present
      | tagCount | sourceCount =>
          have rest := inductionHypothesis (List.subset_of_cons_subset present)
          exact List.Forall₂.cons ⟨rfl, rfl, rfl⟩ rest
      | namespaceCount name =>
          have rest := inductionHypothesis
            (List.subset_of_cons_subset (List.subset_of_cons_subset present))
          have own := present (List.mem_cons_of_mem _ List.mem_cons_self)
          exact List.Forall₂.cons ⟨rfl, rfl, label number, rfl, separate.filter_label own⟩ rest

section Compiled

variable (query : Query) (resolution : Resolution) (request : Search.Request)
  (options : Search.Options)

/-- A plan groups its rows exactly if it counts something. -/
theorem needsGrouping_ofQuery :
    (ofQuery query resolution request options).needsGrouping = true ↔
      (ofQuery query resolution request options).having ≠ [] := by
  rw [needsGrouping, Bool.not_eq_true', ← Bool.not_eq_true, List.isEmpty_iff, not_iff_not]
  constructor
  · intro unjoined
    refine List.eq_nil_iff_forall_not_mem.mpr fun having member => ?_
    exact having.target.not_reached_nil (unjoined ▸ reached_ofQuery member)
  · intro uncounted
    have none : countsFrom 0 query.numbers = [] := List.map_eq_nil_iff.mp uncounted
    simp only [ofQuery, none, List.flatMap_nil, List.foldl_nil]

/-- Whether a condition that offers sources or addresses offers any. -/
def Condition.Offers : Condition → Prop
  | .anySourceName patterns => patterns ≠ []
  | .anySourceUrl texts => texts ≠ []
  | .hasTag _ _ | .idIn _ | .idNotIn _ | .fullText _ | .compare _ _ _ | .language _ | .inSeries
  | .visible => True

theorem offers_of_mem_unlessEmpty {α : Type} {items : List α} {condition : List α → Condition}
    (offers : items ≠ [] → (condition items).Offers) :
    ∀ other ∈ unlessEmpty items condition, other.Offers := by
  intro other member
  rw [unlessEmpty] at member
  split at member
  · cases member
  · rename_i nonempty
    rw [List.mem_singleton.mp member]
    exact offers fun isEmpty => nonempty (List.isEmpty_iff.mpr isEmpty)

theorem offers_of_mem_conditions :
    ∀ condition ∈ (ofQuery query resolution request options).conditions, condition.Offers := by
  have requested : ∀ condition ∈ requestConditions request options, condition.Offers := by
    simp [requestConditions, Condition.Offers, or_imp, forall_and]
  have optional : ∀ condition ∈ (resolution.optional.map Condition.idIn).toList,
      condition.Offers := by
    simp [Condition.Offers]
  have titled : ∀ condition ∈ (if query.title.isEmpty then [] else
      [Condition.fullText query.title]), condition.Offers := by
    simp [Condition.Offers]
  have numbered : ∀ condition ∈ query.numbers.filterMap numberCondition?, condition.Offers := by
    intro condition member
    rcases List.mem_filterMap.mp member with ⟨⟨subject, comparison, value⟩, _, isCondition⟩
    cases subject <;> cases isCondition <;> trivial
  simp only [ofQuery, tagConditions, textConditions, List.forall_mem_append, List.forall_mem_map]
  exact ⟨⟨⟨requested, ⟨fun _ _ => trivial, offers_of_mem_unlessEmpty fun _ => trivial⟩, optional⟩,
    ⟨⟨titled, fun _ _ => trivial⟩, offers_of_mem_unlessEmpty id⟩, offers_of_mem_unlessEmpty id⟩,
    numbered⟩

end Compiled

/-! ## All of it -/

/-- How the joins, the counts and the statement of a plan fit together, and fit the number filters
that the plan was made for. -/
structure IsStructured (plan : Plan) (filters : List NumberFilter) : Prop where
  /-- No join is there twice. -/
  distinct : plan.joins.Nodup
  /-- What is counted is joined. -/
  tagsJoined : ∀ having ∈ plan.having, having.target = .tags → .tags ∈ plan.joins
  sourcesJoined : ∀ having ∈ plan.having, having.target = .sources → .sources ∈ plan.joins
  /-- There is one join for each filter on a namespace, and no two of these have one label. -/
  number : (plan.joins.filterMap CountJoin.label?).length =
    (filters.filterMap countedNamespace?).length
  labels : (plan.joins.filterMap CountJoin.label?).Nodup
  /-- The labels are those of the counts, in the same order. -/
  sameLabels : plan.joins.filterMap CountJoin.label? = plan.having.filterMap Having.label?
  /-- The counts are those of the filters, one for each and in order. -/
  counted : List.Forall₂ (fun filter having => Having.IsCountFor plan.joins filter having)
    (filters.filter takesCount) plan.having
  /-- A join on the tags of a namespace comes with the one on all tags. -/
  hanging : ∀ label scope, .tagsIn label scope ∈ plan.joins → .tags ∈ plan.joins
  /-- The statement, which is rendered fragment by fragment, has each join once, and one on the tags
  of a namespace after the one on all tags. -/
  written : ∀ dialect, ∃ joins rest,
    plan.fragments dialect = .raw "SELECT archives.id, archives.title FROM archives" ::
      (joins.flatMap CountJoin.fragments ++ rest) ∧
    joins.Perm plan.joins ∧
    ∀ label scope, .tagsIn label scope ∈ plan.joins → ∃ before between after,
      joins = before ++ .tags :: between ++ .tagsIn label scope :: after
  /-- Rows are grouped exactly if something is counted. -/
  grouped : plan.needsGrouping = true ↔ plan.having ≠ []
  /-- No choice of sources is empty. -/
  sourceNames : .anySourceName [] ∉ plan.conditions
  sourceAddresses : .anySourceUrl [] ∉ plan.conditions

/-- The plan for a search is structured, whatever its query is. -/
theorem isStructured_ofQuery (query : Query) (resolution : Resolution) (request : Search.Request)
    (options : Search.Options) :
    (ofQuery query resolution request options).IsStructured query.numbers := by
  have separate := separate_ofQuery query resolution request options
  have labels : (ofQuery query resolution request options).joins.filterMap CountJoin.label? =
      (List.range' 0 (query.numbers.filterMap countedNamespace?).length).map label :=
    labels_joins query.numbers
  constructor
  case distinct => exact separate.distinct
  case tagsJoined | sourcesJoined =>
    intro having member target
    have reached := reached_ofQuery member
    rwa [target] at reached
  case number =>
    rw [labels, List.length_map, List.length_range']
  case labels =>
    rw [labels]
    exact List.Nodup.map label_injective List.nodup_range'
  case sameLabels => rw [labels, ofQuery, labels_having]
  case counted =>
    refine forall₂_isCountFor separate fun join requested => ?_
    exact mem_foldl_ensureJoin.mpr (Or.inr requested)
  case hanging => exact fun _ _ => separate.hanging
  case written =>
    intro dialect
    rcases exists_fragments_of_joins (ofQuery query resolution request options) dialect with
      ⟨rest, split⟩
    exact ⟨_, rest, split, separate.perm_orderedJoins, fun _ _ => separate.exists_tags_before⟩
  case grouped => exact needsGrouping_ofQuery query resolution request options
  case sourceNames | sourceAddresses =>
    intro member
    exact offers_of_mem_conditions query resolution request options _ member rfl

end Plan
end Gallery
