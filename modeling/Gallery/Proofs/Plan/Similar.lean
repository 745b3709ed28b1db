import Gallery.Plan.Compile
import Gallery.Proofs.Plan.Binds
import Gallery.Proofs.Plan.Labels
import Gallery.Proofs.Plan.Size

namespace Gallery
namespace Plan

/-!
# Plans that differ in texts

Two plans are similar when they differ in texts alone: in the patterns and namespaces
of tags, in languages, names and addresses of sources, in the namespaces that are
counted, and in title words that come to the same kind of condition.  All of these are
values, so similar plans have the same statement.  The labels of joins are part of the
text of a statement.  They are numbered in the order of the joins, whatever the
namespaces are, and agree for that reason.
-/

open Query (NumberFilter)
open Sql (Dialect Fragment)
open Sql.Fragment (blank)

/-! ## Similar parts -/

/-- Whether title words make no condition, one for wanted rows or one that leaves rows out. -/
def wordsLeaveOut? (words : Query.TitleWords) : Option Bool :=
  (FullText.Match.ofWords? words).map fun condition =>
    match condition with
    | .matching _ => false
    | .excluding _ => true

/-- Conditions that differ in texts alone. -/
inductive Condition.Similar : Condition → Condition → Prop
  | hasTag {scope other : String} (pattern otherPattern : String)
      (generic : Query.isGeneric scope = Query.isGeneric other) :
      Similar (.hasTag scope pattern) (.hasTag other otherPattern)
  | fullText {words others : Query.TitleWords}
      (kind : wordsLeaveOut? words = wordsLeaveOut? others) :
      Similar (.fullText words) (.fullText others)
  | language (pattern other : String) : Similar (.language pattern) (.language other)
  | anySourceName {patterns others : List String} (number : patterns.length = others.length) :
      Similar (.anySourceName patterns) (.anySourceName others)
  | anySourceUrl {texts others : List String} (number : texts.length = others.length) :
      Similar (.anySourceUrl texts) (.anySourceUrl others)
  | same (condition : Condition) : Similar condition condition

/-- Joins that differ in their namespaces, and whatever their labels are. -/
inductive CountJoin.Similar : CountJoin → CountJoin → Prop
  | tagsIn (name scope otherName otherScope : String) :
      Similar (.tagsIn name scope) (.tagsIn otherName otherScope)
  | same (join : CountJoin) : Similar join join

/-- Conditions on the same count up to its label. -/
inductive Having.Similar : Having → Having → Prop
  | tagsIn (name other : String) (comparison : Comparison) (value : Int64) :
      Similar ⟨.tagsIn name, comparison, value⟩ ⟨.tagsIn other, comparison, value⟩
  | same (having : Having) : Similar having having

/-- Plans that differ in texts alone. -/
structure Similar (first second : Plan) : Prop where
  conditions : List.Forall₂ Condition.Similar first.conditions second.conditions
  joins : List.Forall₂ CountJoin.Similar first.joins second.joins
  having : List.Forall₂ Having.Similar first.having second.having
  key : first.key = second.key
  direction : first.direction = second.direction

/-! ## Similar conditions -/

theorem filterMap_eq_of_forall₂ {α β γ : Type} {related : α → β → Prop} {answer : α → Option γ}
    {other : β → Option γ} (same : ∀ a b, related a b → answer a = other b) {first : List α}
    {second : List β} (each : List.Forall₂ related first second) :
    first.filterMap answer = second.filterMap other := by
  induction each with
  | nil => rfl
  | cons head _ inductionHypothesis =>
      rw [List.filterMap_cons, List.filterMap_cons, same _ _ head, inductionHypothesis]

theorem map_blank_intercalate (separator : String) (parts : List (List Fragment)) :
    (List.intercalate [.raw separator] parts).map blank =
      List.intercalate [.raw separator] (parts.map (List.map blank)) := by
  induction parts with
  | nil => rfl
  | cons part others inductionHypothesis =>
      cases others with
      | nil => simp only [List.intercalate_singleton, List.map_cons, List.map_nil]
      | cons next rest =>
          have kept : [Fragment.raw separator].map blank = [.raw separator] := rfl
          rw [List.intercalate_cons_cons, List.map_append, List.map_append, kept,
            inductionHypothesis]
          simp only [List.map_cons, List.intercalate_cons_cons]

theorem map_blank_conjunction (keyword : String) (conditions : List (List Fragment)) :
    (conjunction keyword conditions).map blank =
      conjunction keyword (conditions.map (List.map blank)) := by
  rw [conjunction, conjunction, List.isEmpty_map]
  split
  · rfl
  · rw [List.map_cons, map_blank_intercalate]
    rfl

theorem map_blank_anyOf (alternatives : List (List Fragment)) :
    (anyOf alternatives).map blank = anyOf (alternatives.map (List.map blank)) := by
  rw [anyOf, anyOf, List.map_cons, List.map_append, map_blank_intercalate]
  rfl

/-- Alternatives on sources are counted, not read. -/
theorem map_blank_sources (column : String) {patterns others : List String}
    (number : patterns.length = others.length) :
    (anyOf (patterns.map (sourceFragments column))).map blank =
      (anyOf (others.map (sourceFragments column))).map blank := by
  have each : ∀ texts : List String, (texts.map (sourceFragments column)).map (List.map blank) =
      List.replicate texts.length ((sourceFragments column "").map blank) := by
    intro texts
    have unread : List.map blank ∘ sourceFragments column =
        fun _ => (sourceFragments column "").map blank := by
      funext text
      rfl
    rw [List.map_map, unread, List.map_const']
  rw [map_blank_anyOf, map_blank_anyOf, each, each, number]

/-- The text around the query for title words depends on the kind of the condition. -/
theorem fullText?_of_kind {words others : Query.TitleWords}
    (kind : wordsLeaveOut? words = wordsLeaveOut? others) (dialect : Dialect) :
    ((dialect.fullText? words).map fun condition => (condition.opening, condition.closing)) =
      (dialect.fullText? others).map fun condition => (condition.opening, condition.closing) := by
  have asked : (FullText.Match.ofWords? words).isSome =
      (FullText.Match.ofWords? others).isSome := by
    have both := congrArg Option.isSome kind
    rwa [wordsLeaveOut?, wordsLeaveOut?, Option.isSome_map, Option.isSome_map] at both
  cases dialect with
  | postgres =>
      rw [← FullText.isSome_query?_eq, ← FullText.isSome_query?_eq] at asked
      simp only [Dialect.fullText?, Option.map_map]
      cases found : FullText.Lexemes.query? words <;>
        cases foundToo : FullText.Lexemes.query? others <;> simp_all
  | sqlite =>
      simp only [wordsLeaveOut?] at kind
      simp only [Dialect.fullText?, Option.map_map]
      cases found : FullText.Match.ofWords? words with
      | none => cases foundToo : FullText.Match.ofWords? others <;> simp_all
      | some condition =>
          cases foundToo : FullText.Match.ofWords? others with
          | none => simp_all
          | some other => cases condition <;> cases other <;> simp_all

theorem Condition.Similar.map_blank {first second : Condition} (similar : first.Similar second)
    (dialect : Dialect) :
    (first.fragments? dialect).map (List.map blank) =
      (second.fragments? dialect).map (List.map blank) := by
  cases similar with
  | hasTag pattern otherPattern generic =>
      simp only [fragments?, hasTagFragments, generic]
      split <;> rfl
  | fullText kind =>
      have around := congrArg (Option.map fun texts : String × String =>
        [Fragment.raw texts.1, .bind (.int 0), .raw texts.2]) (fullText?_of_kind kind dialect)
      rw [Option.map_map, Option.map_map] at around
      rw [fragments?, fragments?, Option.map_map, Option.map_map]
      exact around
  | language _ _ => rfl
  | anySourceName number => exact congrArg some (map_blank_sources "name" number)
  | anySourceUrl number =>
      rw [fragments?, fragments?, map_urlFragments, map_urlFragments]
      refine congrArg some (map_blank_sources "url" ?_)
      rw [List.length_map, List.length_map, number]
  | same _ => rfl

/-! ## Similar joins -/

/-- A join whose namespace has been forgotten. -/
def CountJoin.unscoped : CountJoin → CountJoin
  | .tagsIn name _ => .tagsIn name ""
  | join => join

/-- Similar joins with the same labels differ in their namespaces alone. -/
theorem map_unscoped_of_labels {first second : List CountJoin}
    (similar : List.Forall₂ CountJoin.Similar first second)
    (labels : first.filterMap CountJoin.label? = second.filterMap CountJoin.label?) :
    first.map CountJoin.unscoped = second.map CountJoin.unscoped := by
  induction similar with
  | nil => rfl
  | @cons join _ _ _ head _ inductionHypothesis =>
      rw [List.filterMap_cons, List.filterMap_cons] at labels
      cases head with
      | tagsIn name scope otherName otherScope =>
          rcases List.cons.inj labels with ⟨rfl, rest⟩
          rw [List.map_cons, List.map_cons, inductionHypothesis rest]
          rfl
      | same _ =>
          rw [List.map_cons, List.map_cons, inductionHypothesis]
          cases join with
          | tagsIn _ _ => exact (List.cons.inj labels).2
          | tags | sources => exact labels

/-- Similar conditions on counts with the same labels are the same. -/
theorem eq_of_having_labels {first second : List Having}
    (similar : List.Forall₂ Having.Similar first second)
    (labels : first.filterMap Having.label? = second.filterMap Having.label?) : first = second := by
  induction similar with
  | nil => rfl
  | @cons having _ _ _ head _ inductionHypothesis =>
      rw [List.filterMap_cons, List.filterMap_cons] at labels
      cases head with
      | tagsIn name other comparison value =>
          rcases List.cons.inj labels with ⟨rfl, rest⟩
          rw [inductionHypothesis rest]
      | same _ =>
          rw [inductionHypothesis]
          cases found : having.label? with
          | none =>
              rw [found] at labels
              exact labels
          | some _ =>
              rw [found] at labels
              exact (List.cons.inj labels).2

theorem orderedJoins_map_unscoped (joins : List CountJoin) :
    orderedJoins (joins.map CountJoin.unscoped) = (orderedJoins joins).map CountJoin.unscoped := by
  have sameKind : ∀ kept : CountJoin → Bool, (∀ join, kept join.unscoped = kept join) →
      (joins.map CountJoin.unscoped).filter kept = (joins.filter kept).map CountJoin.unscoped := by
    intro kept alike
    rw [List.filter_map]
    congr 2
    exact funext alike
  rw [orderedJoins, orderedJoins, List.map_append, List.map_append]
  rw [sameKind, sameKind, sameKind] <;> intro join <;> cases join <;> rfl

theorem map_blank_joins (joins : List CountJoin) :
    (joins.flatMap CountJoin.fragments).map blank =
      ((joins.map CountJoin.unscoped).flatMap CountJoin.fragments).map blank := by
  induction joins with
  | nil => rfl
  | cons join others inductionHypothesis =>
      rw [List.flatMap_cons, List.map_append, inductionHypothesis, List.map_cons,
        List.flatMap_cons, List.map_append]
      cases join <;> rfl

/-- Similar plans with the same labels have the same statement up to its values. -/
theorem Similar.map_blank {first second : Plan} (similar : first.Similar second)
    (joinLabels : first.joins.filterMap CountJoin.label? =
      second.joins.filterMap CountJoin.label?)
    (countLabels : first.having.filterMap Having.label? = second.having.filterMap Having.label?)
    (dialect : Dialect) :
    (first.fragments dialect).map blank = (second.fragments dialect).map blank := by
  have unscoped := map_unscoped_of_labels similar.joins joinLabels
  have having := eq_of_having_labels similar.having countLabels
  have joins : ((orderedJoins first.joins).flatMap CountJoin.fragments).map blank =
      ((orderedJoins second.joins).flatMap CountJoin.fragments).map blank := by
    rw [map_blank_joins, ← orderedJoins_map_unscoped, unscoped, orderedJoins_map_unscoped,
      ← map_blank_joins]
  have conditions : (first.writtenConditions dialect).map (List.map blank) =
      (second.writtenConditions dialect).map (List.map blank) := by
    rw [writtenConditions, writtenConditions, List.map_filterMap, List.map_filterMap]
    exact filterMap_eq_of_forall₂ (fun _ _ each => each.map_blank dialect) similar.conditions
  have grouping : first.needsGrouping = second.needsGrouping := by
    have sizes := congrArg List.isEmpty unscoped
    rw [List.isEmpty_map, List.isEmpty_map] at sizes
    rw [needsGrouping, needsGrouping, sizes]
  have order : first.orderFragment dialect = second.orderFragment dialect := by
    rw [orderFragment, orderFragment, similar.key, similar.direction]
  simp only [fragments, List.map_cons, List.map_append, map_blank_conjunction, joins, conditions,
    grouping, having, order]

/-! ## Labels of compiled plans -/

/-- Labels that are numbered from the start are known by their number. -/
theorem eq_of_numbered {first second : List String}
    (numbered : ∃ count, first = (List.range' 0 count).map label)
    (numberedToo : ∃ count, second = (List.range' 0 count).map label)
    (lengths : first.length = second.length) : first = second := by
  rcases numbered with ⟨count, rfl⟩
  rcases numberedToo with ⟨other, rfl⟩
  rw [List.length_map, List.length_map, List.length_range', List.length_range'] at lengths
  rw [lengths]

theorem length_filterMap_of_forall₂ {α β : Type} {related : α → α → Prop} {answer : α → Option β}
    (same : ∀ a b, related a b → (answer a).map (fun _ => ()) = (answer b).map fun _ => ())
    {first second : List α} (each : List.Forall₂ related first second) :
    (first.filterMap answer).length = (second.filterMap answer).length := by
  have marks := congrArg List.length (filterMap_eq_of_forall₂ same each)
  rwa [← List.map_filterMap, ← List.map_filterMap, List.length_map, List.length_map] at marks

/-- Whether a plan was made for a search. -/
def IsCompiled (plan : Plan) : Prop :=
  ∃ query resolution request options, plan = ofQuery query resolution request options

/-- Similar plans of searches have the same statement up to its values. -/
theorem Similar.map_blank_of_compiled {first second : Plan} (similar : first.Similar second)
    (compiled : first.IsCompiled) (compiledToo : second.IsCompiled) (dialect : Dialect) :
    (first.fragments dialect).map blank = (second.fragments dialect).map blank := by
  rcases compiled with ⟨query, _, _, _, rfl⟩
  rcases compiledToo with ⟨other, _, _, _, rfl⟩
  apply similar.map_blank
  · refine eq_of_numbered ⟨_, labels_joins query.numbers⟩ ⟨_, labels_joins other.numbers⟩
      (length_filterMap_of_forall₂ ?_ similar.joins)
    rintro _ _ (_ | _) <;> rfl
  · refine eq_of_numbered ⟨_, labels_having query.numbers 0⟩ ⟨_, labels_having other.numbers 0⟩
      (length_filterMap_of_forall₂ ?_ similar.having)
    rintro _ _ (_ | _) <;> rfl

/-! ## The statement of a search -/

open Sql.Fragment (interleave segments)

/-- The statement of a search is made of texts with numbered placeholders between them, one for
each value; the values are bound in the order of the plan; and a search that differs in texts
alone has the same statement, so none of these texts is a part of it. -/
theorem statement_takes_no_text {plan : Plan} (compiled : plan.IsCompiled) (dialect : Dialect) :
    (plan.render dialect).sql =
        interleave ((List.range' 1 (plan.render dialect).binds.length).map dialect.placeholder)
          (segments dialect (plan.fragments dialect)) ∧
      (segments dialect (plan.fragments dialect)).2.length = (plan.render dialect).binds.length ∧
      (plan.render dialect).binds = plan.slots.map (Slot.bind dialect) ∧
      ∀ other : Plan, other.IsCompiled → plan.Similar other →
        (plan.render dialect).sql = (other.render dialect).sql ∧
          (plan.render dialect).binds.length = (other.render dialect).binds.length := by
  rcases Sql.sql_render dialect (plan.fragments dialect) with ⟨text, number⟩
  refine ⟨text, number, binds_render plan dialect, fun other compiledToo similar => ?_⟩
  exact Sql.render_of_blank (similar.map_blank_of_compiled compiled compiledToo dialect) dialect

/-- The plan of a search for a tag, a title and a count, and one of the same kind whose texts
are written to break out of a statement. -/
def plainSearch : Plan :=
  ofQuery {
    tags := [⟨"artist", "jane", .required⟩]
    title := { required := ["tale"] }
    numbers := [⟨.namespaceCount "artist", .greater, 1⟩] } {} {} {}

def hostileSearch : Plan :=
  ofQuery {
    tags := [⟨"x) OR (1", "%); DROP TABLE archives; --", .required⟩]
    title := { required := ["a) OR rowid > 0 --"] }
    numbers := [⟨.namespaceCount "1 OR 1 = 1", .greater, 1⟩] } {} {} {}

/-- Both searches have the same statement, although they bind different values. -/
theorem plainSearch_and_hostileSearch :
    plainSearch.IsCompiled ∧ hostileSearch.IsCompiled ∧ plainSearch.Similar hostileSearch ∧
      plainSearch.slots ≠ hostileSearch.slots ∧
      ∀ dialect, (plainSearch.render dialect).sql = (hostileSearch.render dialect).sql := by
  have compiled : plainSearch.IsCompiled := ⟨_, _, _, _, rfl⟩
  have compiledToo : hostileSearch.IsCompiled := ⟨_, _, _, _, rfl⟩
  have similar : plainSearch.Similar hostileSearch := {
    conditions := .cons (.same _) (.cons (.hasTag _ _ (by decide +kernel))
      (.cons (.fullText (by decide +kernel)) .nil))
    joins := .cons (.same _) (.cons (.tagsIn _ _ _ _) .nil)
    having := .cons (.same _) .nil
    key := rfl
    direction := rfl }
  refine ⟨compiled, compiledToo, similar, by decide +kernel, fun dialect => ?_⟩
  exact ((statement_takes_no_text compiled dialect).2.2.2 hostileSearch compiledToo similar).1

end Plan
end Gallery
