import Gallery.Plan.Statement
import Gallery.Proofs.FullText.KeptWords
import Gallery.Proofs.Sql.Placeholders

namespace Gallery
namespace Plan

/-!
# The values of a statement

Every part of a plan binds values of its own: a join its namespace, a condition what it
compares with, a count its bound.  They are bound in the order in which the parts are
written.  Only the query for title words depends on the dialect, and in which place it
stands does not, since both dialects write such a condition or neither does.
-/

open Sql (Bind Dialect Fragment)

/-- What a placeholder stands for: a value, or the query that a dialect makes of title words. -/
inductive Slot where
  | value (bind : Bind)
  | query (words : Query.TitleWords)
deriving DecidableEq, Repr

/-- What is bound for a placeholder in a dialect. -/
def Slot.bind (dialect : Dialect) : Slot → Bind
  | .value bind => bind
  | .query words => .text (((dialect.fullText? words).map Sql.FullTextCondition.query).getD "")

/-- The placeholders of a condition. -/
def Condition.slots : Condition → List Slot
  | .hasTag scope pattern =>
      if Query.isGeneric scope then [.value (.text pattern), .value (.text pattern)]
      else [.value (.text pattern), .value (.text scope)]
  | .fullText words => if (FullText.Match.ofWords? words).isSome then [.query words] else []
  | .compare _ _ value => [.value (.int value)]
  | .language pattern => [.value (.text pattern)]
  | .anySourceName patterns => patterns.map fun pattern => .value (.text pattern)
  | .anySourceUrl texts => texts.map fun text => .value (.text (urlPattern text))
  | .idIn _ | .idNotIn _ | .inSeries | .visible => []

/-- The namespace that a join is limited to. -/
def CountJoin.scope? : CountJoin → Option String
  | .tagsIn _ scope => some scope
  | .tags | .sources => none

/-- The placeholders of a plan: those of its joins as they are written, of its conditions and of
its counts. -/
def slots (plan : Plan) : List Slot :=
  ((orderedJoins plan.joins).filterMap CountJoin.scope?).map (fun scope => .value (.text scope)) ++
    plan.conditions.flatMap Condition.slots ++
    plan.having.map fun having => .value (.int having.value)

/-! ## Values between texts -/

section Lists

open Sql.Fragment (bind?)

theorem binds_intercalate (separator : String) (parts : List (List Fragment)) :
    (List.intercalate [.raw separator] parts).filterMap bind? =
      parts.flatMap (List.filterMap bind?) := by
  induction parts with
  | nil => rfl
  | cons part others inductionHypothesis =>
      cases others with
      | nil => simp [List.intercalate_singleton]
      | cons next rest =>
          have unbound : [Fragment.raw separator].filterMap bind? = [] := rfl
          rw [List.intercalate_cons_cons, List.filterMap_append, List.filterMap_append, unbound,
            List.append_nil, inductionHypothesis, ← List.flatMap_cons]

theorem binds_conjunction (keyword : String) (conditions : List (List Fragment)) :
    (conjunction keyword conditions).filterMap bind? =
      conditions.flatMap (List.filterMap bind?) := by
  rw [conjunction]
  split
  · rename_i empty
    rw [List.isEmpty_iff.mp empty]
    rfl
  · exact binds_intercalate " AND " conditions

theorem binds_anyOf (alternatives : List (List Fragment)) :
    (anyOf alternatives).filterMap bind? = alternatives.flatMap (List.filterMap bind?) := by
  have closed : ((.raw "(" : Fragment) ::
      (List.intercalate [.raw " OR "] alternatives ++ [.raw ")"])).filterMap bind? =
      (List.intercalate [.raw " OR "] alternatives).filterMap bind? ++ [] :=
    List.filterMap_append
  rw [anyOf, closed, List.append_nil, binds_intercalate]

end Lists

/-! ## Values of the parts -/

theorem binds_joins (joins : List CountJoin) :
    (joins.flatMap CountJoin.fragments).filterMap Fragment.bind? =
      (joins.filterMap CountJoin.scope?).map .text := by
  induction joins with
  | nil => rfl
  | cons join others inductionHypothesis =>
      rw [List.flatMap_cons, List.filterMap_append, inductionHypothesis]
      cases join <;> rfl

/-- Addresses are asked about like names, but for the pattern. -/
theorem map_urlFragments (texts : List String) :
    (texts.map fun text => sourceFragments "url" (urlPattern text)) =
      (texts.map urlPattern).map (sourceFragments "url") := by
  rw [List.map_map]
  rfl

theorem binds_sources (column : String) (patterns : List String) :
    (anyOf (patterns.map (sourceFragments column))).filterMap Fragment.bind? =
      patterns.map .text := by
  rw [binds_anyOf]
  induction patterns with
  | nil => rfl
  | cons pattern others inductionHypothesis =>
      rw [List.map_cons, List.flatMap_cons, inductionHypothesis]
      rfl

/-- What a written condition binds is what its placeholders stand for. -/
theorem Condition.binds_of_fragments {dialect : Dialect} {condition : Condition}
    {fragments : List Fragment} (written : condition.fragments? dialect = some fragments) :
    fragments.filterMap Fragment.bind? = condition.slots.map (Slot.bind dialect) := by
  cases condition with
  | hasTag scope pattern =>
      cases written
      rw [hasTagFragments, slots]
      split <;> rfl
  | fullText words =>
      rcases Option.map_eq_some_iff.mp written with ⟨made, compiled, rfl⟩
      have kept : (FullText.Match.ofWords? words).isSome = true := by
        rw [← dialect.isSome_fullText?, compiled]
        rfl
      simp only [slots, kept, if_true, List.map_cons, List.map_nil, Slot.bind, compiled,
        Option.map_some, Option.getD_some]
      rfl
  | anySourceName patterns =>
      cases written
      rw [binds_sources, slots, List.map_map]
      rfl
  | anySourceUrl texts =>
      cases written
      rw [map_urlFragments, binds_sources, slots, List.map_map, List.map_map]
      rfl
  | idIn ids | idNotIn ids =>
      cases written
      rw [slots]
      split <;> rfl
  | compare _ _ _ | language _ | inSeries | visible =>
      cases written
      rfl

/-- A condition that is not written has no placeholders. -/
theorem Condition.slots_of_unwritten {dialect : Dialect} {condition : Condition}
    (unwritten : condition.fragments? dialect = none) : condition.slots = [] := by
  cases condition with
  | fullText words =>
      have dropped : (FullText.Match.ofWords? words).isSome = false := by
        rw [← dialect.isSome_fullText?, Option.map_eq_none_iff.mp unwritten]
        rfl
      rw [slots, dropped]
      rfl
  | hasTag _ _ | idIn _ | idNotIn _ | compare _ _ _ | language _ | anySourceName _
  | anySourceUrl _ | inSeries | visible => cases unwritten

theorem binds_conditions (dialect : Dialect) (conditions : List Condition) :
    (conditions.filterMap (Condition.fragments? dialect)).flatMap (List.filterMap Fragment.bind?) =
      (conditions.flatMap Condition.slots).map (Slot.bind dialect) := by
  induction conditions with
  | nil => rfl
  | cons condition others inductionHypothesis =>
      rw [List.filterMap_cons, List.flatMap_cons, List.map_append, ← inductionHypothesis]
      cases written : condition.fragments? dialect with
      | none => rw [Condition.slots_of_unwritten written, List.map_nil, List.nil_append]
      | some fragments => rw [List.flatMap_cons, Condition.binds_of_fragments written]

theorem binds_having (having : List Having) :
    (having.map Having.fragments).flatMap (List.filterMap Fragment.bind?) =
      having.map fun each => .int each.value := by
  induction having with
  | nil => rfl
  | cons each others inductionHypothesis =>
      rw [List.map_cons, List.flatMap_cons, inductionHypothesis]
      rfl

/-- The values of a statement, in the order of the plan. -/
theorem binds_render (plan : Plan) (dialect : Dialect) :
    (plan.render dialect).binds = plan.slots.map (Slot.bind dialect) := by
  have grouping : (if plan.needsGrouping then [Fragment.raw " GROUP BY archives.id"] else
      []).filterMap Fragment.bind? = [] := by
    split <;> rfl
  have parts : (plan.render dialect).binds =
      ((orderedJoins plan.joins).flatMap CountJoin.fragments).filterMap Fragment.bind? ++
        (conjunction " WHERE " (plan.writtenConditions dialect)).filterMap Fragment.bind? ++
        (conjunction " HAVING " (plan.having.map Having.fragments)).filterMap Fragment.bind? := by
    have whole : (plan.render dialect).binds =
        ((orderedJoins plan.joins).flatMap CountJoin.fragments ++
          conjunction " WHERE " (plan.writtenConditions dialect) ++
          (if plan.needsGrouping then [Fragment.raw " GROUP BY archives.id"] else []) ++
          conjunction " HAVING " (plan.having.map Having.fragments) ++
          [plan.orderFragment dialect]).filterMap Fragment.bind? := rfl
    have last : [plan.orderFragment dialect].filterMap Fragment.bind? = [] := rfl
    rw [whole]
    simp only [List.filterMap_append, grouping, last, List.append_nil]
  rw [parts, binds_joins, binds_conjunction, binds_conjunction, writtenConditions,
    binds_conditions, binds_having, slots, List.map_append, List.map_append, List.map_map,
    List.map_map]
  rfl

end Plan
end Gallery
