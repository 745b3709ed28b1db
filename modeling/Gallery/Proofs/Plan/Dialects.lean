import Gallery.Proofs.Plan.Binds

namespace Gallery
namespace Plan

/-!
# One statement in two dialects

A statement can be laid out before there is a dialect.  Its parts are fragments that both
dialects share, the conditions on title words, and the leading expression of its order.
Each dialect fills in the last two and spells the rest, so the statements of one plan have
the same joins, conditions, groups and counts, and nearly the same values.
-/

open Sql (Bind Dialect Fragment textBind)

/-- A part of a statement whose dialect is still open. -/
inductive Part where
  | shared (fragment : Fragment)
  | fullText (words : Query.TitleWords)
  | order (key : Search.SortKey) (direction : Search.Direction)
deriving DecidableEq, Repr

/-- The fragments of a part in a dialect. -/
def Part.fragments (dialect : Dialect) : Part → List Fragment
  | .shared fragment => [fragment]
  | .fullText words =>
      match dialect.fullText? words with
      | some condition => [.raw condition.opening, textBind condition.query, .raw condition.closing]
      | none => []
  | .order key direction => [.raw (dialect.orderExpression key direction)]

/-- The fragments of parts in a dialect. -/
def fill (dialect : Dialect) (parts : List Part) : List Fragment :=
  parts.flatMap (Part.fragments dialect)

/-- The parts of a condition, if it is written at all. -/
def Condition.parts? : Condition → Option (List Part)
  | .fullText words =>
      if (FullText.Match.ofWords? words).isSome then some [.fullText words] else none
  | condition => (condition.fragments? .sqlite).map (List.map .shared)

/-- The conditions of a plan that are written. -/
def conditionParts (plan : Plan) : List (List Part) :=
  plan.conditions.filterMap Condition.parts?

/-- Conditions with a keyword in front of the first and `AND` between them. -/
def conjunctionParts (keyword : String) (conditions : List (List Part)) : List Part :=
  if conditions.isEmpty then []
  else .shared (.raw keyword) :: List.intercalate [.shared (.raw " AND ")] conditions

/-- What is behind the leading expression of the order. -/
def tieBreak (plan : Plan) : String :=
  ", archives.created_at " ++ Sql.directionKeyword plan.direction ++ ", archives.id " ++
    Sql.directionKeyword plan.direction

/-- The parts of the statement of a plan: the joins, the conditions, the groups and the counts,
and then the order. -/
def parts (plan : Plan) : List Part :=
  (.shared (.raw "SELECT archives.id, archives.title FROM archives") ::
    (((orderedJoins plan.joins).flatMap CountJoin.fragments).map .shared ++
      conjunctionParts " WHERE " plan.conditionParts ++
      (if plan.needsGrouping then [.shared (.raw " GROUP BY archives.id")] else []) ++
      (conjunction " HAVING " (plan.having.map Having.fragments)).map .shared)) ++
    [.shared (.raw " ORDER BY "), .order plan.key plan.direction, .shared (.raw plan.tieBreak)]

/-! ## What parts leave open -/

/-- What is true of a separator and of all items of some lists is true of the lists put
together. -/
theorem forall_mem_intercalate {α : Type} (property : α → Prop) {separator : α}
    (separates : property separator) {lists : List (List α)}
    (each : ∀ items ∈ lists, ∀ item ∈ items, property item) :
    ∀ item ∈ List.intercalate [separator] lists, property item := by
  induction lists with
  | nil => exact List.forall_mem_nil _
  | cons items others inductionHypothesis =>
      rcases List.forall_mem_cons.mp each with ⟨first, rest⟩
      cases others with
      | nil => rwa [List.intercalate_singleton]
      | cons next later =>
          rw [List.intercalate_cons_cons]
          refine List.forall_mem_append.mpr ⟨List.forall_mem_append.mpr ⟨first, ?_⟩, ?_⟩
          · exact List.forall_mem_singleton.mpr separates
          · exact inductionHypothesis rest

/-- Sources are asked about without the tags that are loaded with an item. -/
theorem ne_tagList_of_mem_sources (column : String) (patterns : List String) :
    ∀ fragment ∈ anyOf (patterns.map (sourceFragments column)), fragment ≠ .tagList := by
  have each : ∀ alternative ∈ patterns.map (sourceFragments column),
      ∀ fragment ∈ alternative, fragment ≠ .tagList := by
    intro alternative member
    rcases List.mem_map.mp member with ⟨pattern, _, rfl⟩
    simp [sourceFragments, textBind]
  have between : Fragment.raw " OR " ≠ .tagList := Fragment.noConfusion
  rw [anyOf]
  refine List.forall_mem_cons.mpr ⟨Fragment.noConfusion, List.forall_mem_append.mpr ⟨?_, ?_⟩⟩
  · exact forall_mem_intercalate (· ≠ Fragment.tagList) between each
  · exact List.forall_mem_singleton.mpr Fragment.noConfusion

theorem Condition.ne_tagList_of_mem {dialect : Dialect} {condition : Condition}
    {fragments : List Fragment} (written : condition.fragments? dialect = some fragments) :
    ∀ fragment ∈ fragments, fragment ≠ .tagList := by
  cases condition with
  | hasTag scope pattern =>
      cases written
      rw [hasTagFragments]
      split <;> simp [textBind]
  | fullText words =>
      rcases Option.map_eq_some_iff.mp written with ⟨made, _, rfl⟩
      simp [textBind]
  | anySourceName patterns =>
      cases written
      exact ne_tagList_of_mem_sources "name" patterns
  | anySourceUrl texts =>
      cases written
      rw [map_urlFragments]
      exact ne_tagList_of_mem_sources "url" _
  | idIn ids | idNotIn ids =>
      cases written
      split <;> simp [Sql.idList]
  | compare _ _ _ | language _ | inSeries | visible =>
      cases written
      simp [textBind, Sql.intBind]

theorem ne_tagList_of_mem_shared {fragments : List Fragment}
    (each : ∀ fragment ∈ fragments, fragment ≠ .tagList) :
    ∀ part ∈ fragments.map Part.shared, part ≠ .shared .tagList := by
  intro part member same
  rcases List.mem_map.mp member with ⟨fragment, inFragments, rfl⟩
  exact each fragment inFragments (Part.shared.inj same)

theorem Condition.ne_tagList_of_mem_parts {condition : Condition} {parts : List Part}
    (written : condition.parts? = some parts) : ∀ part ∈ parts, part ≠ .shared .tagList := by
  cases condition with
  | fullText words =>
      rw [parts?] at written
      split at written
      · cases written
        exact List.forall_mem_singleton.mpr Part.noConfusion
      · cases written
  | hasTag _ _ | idIn _ | idNotIn _ | compare _ _ _ | language _ | anySourceName _
  | anySourceUrl _ | inSeries | visible =>
      simp only [parts?, Option.map_eq_some_iff] at written
      rcases written with ⟨fragments, asked, rfl⟩
      exact ne_tagList_of_mem_shared (ne_tagList_of_mem asked)

theorem CountJoin.ne_tagList_of_mem (join : CountJoin) :
    ∀ fragment ∈ join.fragments, fragment ≠ .tagList := by
  cases join <;> simp [fragments, textBind]

/-- The statement of a search does not list tags. -/
theorem ne_tagList_of_mem_parts (plan : Plan) : ∀ part ∈ plan.parts, part ≠ .shared .tagList := by
  have joins : ∀ fragment ∈ (orderedJoins plan.joins).flatMap CountJoin.fragments,
      fragment ≠ .tagList := by
    intro fragment member
    rcases List.mem_flatMap.mp member with ⟨join, _, inJoin⟩
    exact join.ne_tagList_of_mem fragment inJoin
  have conditions : ∀ part ∈ conjunctionParts " WHERE " plan.conditionParts,
      part ≠ .shared .tagList := by
    rw [conjunctionParts]
    split
    · exact List.forall_mem_nil _
    · refine List.forall_mem_cons.mpr ⟨by simp, ?_⟩
      refine forall_mem_intercalate (· ≠ Part.shared .tagList) (by simp) fun parts member => ?_
      rcases List.mem_filterMap.mp member with ⟨condition, _, written⟩
      exact Condition.ne_tagList_of_mem_parts written
  have counts : ∀ fragment ∈ conjunction " HAVING " (plan.having.map Having.fragments),
      fragment ≠ .tagList := by
    rw [conjunction]
    split
    · exact List.forall_mem_nil _
    · refine List.forall_mem_cons.mpr ⟨Fragment.noConfusion, ?_⟩
      refine forall_mem_intercalate (· ≠ Fragment.tagList) Fragment.noConfusion
        fun fragments member => ?_
      rcases List.mem_map.mp member with ⟨having, _, rfl⟩
      simp [Having.fragments, Sql.intBind]
  have grouping : ∀ part ∈ (if plan.needsGrouping then
      [Part.shared (.raw " GROUP BY archives.id")] else []), part ≠ .shared .tagList := by
    split <;> simp
  intro part member
  simp only [parts, List.mem_append, List.mem_cons, List.not_mem_nil, or_false] at member
  rcases member with (rfl | ((inJoins | inConditions) | inGrouping) | inCounts) | rfl | rfl | rfl
  · simp
  · exact ne_tagList_of_mem_shared joins part inJoins
  · exact conditions part inConditions
  · exact grouping part inGrouping
  · exact ne_tagList_of_mem_shared counts part inCounts
  all_goals simp

/-! ## Filling in a dialect -/

section Fill

variable (dialect : Dialect)

theorem fill_append (first second : List Part) :
    fill dialect (first ++ second) = fill dialect first ++ fill dialect second :=
  List.flatMap_append

theorem fill_map_shared (fragments : List Fragment) :
    fill dialect (fragments.map .shared) = fragments := by
  rw [fill, List.flatMap_map]
  exact List.flatMap_singleton' fragments

/-- Conditions are written in the same dialects, and from the same parts. -/
theorem fragments?_eq_fill (condition : Condition) :
    condition.fragments? dialect = condition.parts?.map (fill dialect) := by
  have spelled : ∀ fragments : Option (List Fragment),
      (fragments.map (List.map Part.shared)).map (fill dialect) = fragments := by
    intro fragments
    rw [Option.map_map]
    cases fragments with
    | none => rfl
    | some fragments => exact congrArg some (fill_map_shared dialect fragments)
  cases condition with
  | fullText words =>
      have kept := dialect.isSome_fullText? words
      rw [Condition.fragments?, Condition.parts?, ← kept]
      cases made : dialect.fullText? words with
      | none => rfl
      | some condition =>
          simp only [Option.isSome_some, if_true, Option.map_some, fill, List.flatMap_cons,
            List.flatMap_nil, List.append_nil, Part.fragments, made]
  | hasTag _ _ | idIn _ | idNotIn _ | compare _ _ _ | language _ | anySourceName _
  | anySourceUrl _ | inSeries | visible => exact (spelled _).symm

theorem writtenConditions_eq_fill (plan : Plan) :
    plan.writtenConditions dialect = plan.conditionParts.map (fill dialect) := by
  rw [writtenConditions, conditionParts, List.map_filterMap]
  congr 1
  funext condition
  exact fragments?_eq_fill dialect condition

theorem fill_intercalate (separator : String) (parts : List (List Part)) :
    fill dialect (List.intercalate [.shared (.raw separator)] parts) =
      List.intercalate [.raw separator] (parts.map (fill dialect)) := by
  induction parts with
  | nil => rfl
  | cons part others inductionHypothesis =>
      cases others with
      | nil => simp only [List.intercalate_singleton, List.map_cons, List.map_nil]
      | cons next rest =>
          have spelled : fill dialect [.shared (.raw separator)] = [.raw separator] := rfl
          rw [List.intercalate_cons_cons, fill_append, fill_append, spelled, inductionHypothesis]
          simp only [List.map_cons, List.intercalate_cons_cons]

theorem fill_conjunctionParts (keyword : String) (conditions : List (List Part)) :
    fill dialect (conjunctionParts keyword conditions) =
      conjunction keyword (conditions.map (fill dialect)) := by
  rw [conjunctionParts, conjunction, List.isEmpty_map]
  split
  · rfl
  · rw [← fill_intercalate]
    rfl

/-- Shared text stays where it is. -/
theorem fill_cons_raw (sql : String) (parts : List Part) :
    fill dialect (.shared (.raw sql) :: parts) = .raw sql :: fill dialect parts :=
  rfl

private theorem regroup (opening expression between keyword further : String) :
    String.join [opening, expression, between ++ keyword ++ further ++ keyword] =
      opening ++ expression ++ between ++ keyword ++ further ++ keyword := by
  simp only [String.join_cons, String.join_nil, String.append_empty, String.append_assoc]

/-- The order of a statement is one text, whether it is laid out in parts or not. -/
theorem join_order (plan : Plan) :
    Fragment.raw (String.join [" ORDER BY ", dialect.orderExpression plan.key plan.direction,
      plan.tieBreak]) = plan.orderFragment dialect :=
  congrArg Fragment.raw (regroup _ _ _ _ _)

/-- The statement of a plan is its parts, filled in for a dialect. -/
theorem render_eq_fill (plan : Plan) :
    plan.render dialect = Sql.render dialect (fill dialect plan.parts) := by
  have grouping : fill dialect (if plan.needsGrouping then
      [.shared (.raw " GROUP BY archives.id")] else []) =
      if plan.needsGrouping then [.raw " GROUP BY archives.id"] else [] := by
    split <;> rfl
  have order : fill dialect [.shared (.raw " ORDER BY "), .order plan.key plan.direction,
      .shared (.raw plan.tieBreak)] = [" ORDER BY ",
        dialect.orderExpression plan.key plan.direction, plan.tieBreak].map .raw := by
    simp only [fill, List.flatMap_cons, List.flatMap_nil, Part.fragments, List.map_cons,
      List.map_nil, List.cons_append, List.nil_append]
  have laidOut : plan.fragments dialect =
      (.raw "SELECT archives.id, archives.title FROM archives" ::
        ((orderedJoins plan.joins).flatMap CountJoin.fragments ++
          conjunction " WHERE " (plan.writtenConditions dialect) ++
          (if plan.needsGrouping then [.raw " GROUP BY archives.id"] else []) ++
          conjunction " HAVING " (plan.having.map Having.fragments))) ++
        [plan.orderFragment dialect] := rfl
  rw [render, laidOut, parts, fill_append, order, Sql.render_append_raw, join_order, fill_cons_raw,
    fill_append, fill_append, fill_append, fill_map_shared, fill_map_shared,
    fill_conjunctionParts, grouping, writtenConditions_eq_fill]

end Fill

/-! ## Both dialects -/

/-- Of what the dialects share, only the operator for patterns and the placeholders are spelled
in two ways. -/
theorem spell_shared {plan : Plan} {fragment : Fragment} (member : .shared fragment ∈ plan.parts)
    (uniform : fragment ≠ .like) (unbound : fragment.bind? = none) (number : Nat) :
    fragment.spell .postgres number = fragment.spell .sqlite number := by
  cases fragment with
  | raw sql => rfl
  | bind value => cases unbound
  | like => exact absurd rfl uniform
  | tagList => exact absurd rfl (ne_tagList_of_mem_parts plan _ member)

/-- At each place the dialects bind the same value, unless it is for title words. -/
theorem binds_agree (plan : Plan) (position : Nat) :
    (∃ words, plan.slots[position]? = some (.query words)) ∨
      (plan.render .postgres).binds[position]? = (plan.render .sqlite).binds[position]? := by
  rw [binds_render, binds_render, List.getElem?_map, List.getElem?_map]
  cases plan.slots[position]? with
  | none => exact Or.inr rfl
  | some slot =>
      cases slot with
      | query words => exact Or.inl ⟨words, rfl⟩
      | value bind => exact Or.inr rfl

theorem conjunction_eq_nil_iff {keyword : String} {conditions : List (List Fragment)} :
    conjunction keyword conditions = [] ↔ conditions = [] := by
  rw [conjunction]
  cases conditions with
  | nil => exact iff_of_true rfl rfl
  | cons condition others => exact iff_of_false (List.cons_ne_nil _ _) (List.cons_ne_nil _ _)

/-- Both dialects write one statement.  They fill in the same parts, which leave open only the
operator for patterns, the placeholders, the conditions on title words and the leading expression
of the order; the same conditions are written, in the same order; and they bind as many values,
which differ only where a query for title words is bound. -/
theorem dialects_write_one_statement (plan : Plan) :
    (∀ dialect, plan.render dialect = Sql.render dialect (fill dialect plan.parts)) ∧
    (∀ fragment, .shared fragment ∈ plan.parts → fragment ≠ .like → fragment.bind? = none →
      ∀ number, fragment.spell .postgres number = fragment.spell .sqlite number) ∧
    (∀ dialect, plan.writtenConditions dialect = plan.conditionParts.map (fill dialect)) ∧
    (conjunction " WHERE " (plan.writtenConditions .postgres) = [] ↔
      conjunction " WHERE " (plan.writtenConditions .sqlite) = []) ∧
    (∀ words, (Dialect.postgres.fullText? words).isSome =
      (Dialect.sqlite.fullText? words).isSome) ∧
    (∀ dialect, (plan.render dialect).binds = plan.slots.map (Slot.bind dialect)) ∧
    (plan.render .postgres).binds.length = (plan.render .sqlite).binds.length ∧
    ∀ position : Nat, (∃ words, plan.slots[position]? = some (.query words)) ∨
      (plan.render .postgres).binds[position]? = (plan.render .sqlite).binds[position]? := by
  refine ⟨fun dialect => render_eq_fill dialect plan, fun _ => spell_shared,
    fun dialect => writtenConditions_eq_fill dialect plan, ?_, fun words => ?_,
    binds_render plan, ?_, binds_agree plan⟩
  · rw [conjunction_eq_nil_iff, conjunction_eq_nil_iff, writtenConditions_eq_fill,
      writtenConditions_eq_fill, List.map_eq_nil_iff, List.map_eq_nil_iff]
  · rw [Dialect.isSome_fullText?, Dialect.isSome_fullText?]
  · rw [binds_render, binds_render, List.length_map, List.length_map]

end Plan
end Gallery
