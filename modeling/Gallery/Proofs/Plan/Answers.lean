import Gallery.Proofs.Plan.JoinedCounts
import Gallery.Proofs.Plan.Structure
import Gallery.Proofs.Sql.Selections

namespace Gallery
namespace Plan

open Sql (Cell CountTest Fragment Joined OrderKey OrderTerm Scope Selection TableName Test Written)
open Store (Archive)

/-!
# What the statement of a plan answers

The meaning of a plan says of each archive whether it is wanted, and which of two comes
first.  Its statement says so in SQL.  Here the statement for SQLite is read as a
selection, and the selection answers with what the plan means: the same archives, each
once, in the same order.

This is shown clause by clause.  Each condition is written as a test, which keeps the
archives of which the condition holds; the joins and counts are those of the module on
counts; and the terms of the order tell two archives apart as the plan does.  What a
database refuses to answer is not a matter of the statement's meaning and is left out.
-/

/-! ## Conditions as they are written -/

/-- The condition that a row belongs to the archive. -/
def belongs (table : TableName) : Test :=
  .compare ⟨table, .archive⟩ .equal (.column ⟨.archives, .id⟩)

/-- The condition that a link belongs to the archive and its tag matches. -/
def tagTest (scope pattern : String) : Test :=
  if Query.isGeneric scope then
    (belongs .links).and
      ((Test.like ⟨.tags, .name⟩ pattern).or (.like ⟨.tags, .displayName⟩ pattern)).grouped
  else
    ((belongs .links).and (.like ⟨.tags, .name⟩ pattern)).and
      (.compare ⟨.tags, .scope⟩ .equal (.bound (.text scope)))

/-- The condition that the archive carries a tag that matches. -/
def hasTagTest (scope pattern : String) : Test :=
  .exists ⟨.links, some (.tags, ⟨.tags, .id⟩, ⟨.links, .tag⟩)⟩ (tagTest scope pattern)

/-- The condition that some source of the archive has a matching column. -/
def sourceTest (column : Sql.ColumnName) (pattern : String) : Test :=
  .exists ⟨.sources, none⟩ ((belongs .sources).and (.like ⟨.sources, column⟩ pattern))

/-- A column of archives. -/
def Column.cell : Column → Cell
  | .pages => ⟨.archives, .pages⟩
  | .size => ⟨.archives, .size⟩

/-- What a condition asks of the rows in scope, or none when nothing is left of it. -/
def Condition.test? : Condition → Option Test
  | .hasTag scope pattern => some (hasTagTest scope pattern)
  | .idIn ids =>
      some (if ids.isEmpty then .constant false else .among ⟨.archives, .id⟩ false ids)
  | .idNotIn ids =>
      some (if ids.isEmpty then .constant true else .among ⟨.archives, .id⟩ true ids)
  | .fullText words =>
      (FullText.Match.ofWords? words).map fun condition =>
        match condition with
        | .matching expression => .indexed ⟨.archives, .id⟩ false expression
        | .excluding expression => .indexed ⟨.archives, .id⟩ true expression
  | .compare column comparison value =>
      some (.compare column.cell comparison (.bound (.int value)))
  | .language pattern => some (.like ⟨.archives, .language⟩ pattern)
  | .anySourceName patterns => Test.anyOf? (patterns.map (sourceTest .name))
  | .anySourceUrl texts => Test.anyOf? (texts.map fun text => sourceTest .url (urlPattern text))
  | .inSeries => some (.exists ⟨.memberships, none⟩ (belongs .memberships))
  | .visible => some (.isNull ⟨.archives, .deletedAt⟩)

theorem written_hasTagTest (scope pattern : String) :
    Sql.written (hasTagFragments scope pattern) = (hasTagTest scope pattern).written := by
  rw [hasTagFragments, hasTagTest, tagTest]
  split <;> simp [belongs, Sql.textBind, Comparison.symbol]

theorem written_sourceTest (column : Sql.ColumnName) (pattern : String)
    (known : column = .name ∨ column = .url) :
    Sql.written (sourceFragments column.sql pattern) = (sourceTest column pattern).written := by
  rcases known with rfl | rfl <;>
    simp [sourceFragments, sourceTest, belongs, Sql.textBind, Comparison.symbol]

theorem written_anyOf {alternatives : List (List Fragment)} {tests : List Test}
    (same : alternatives.map Sql.written = tests.map Test.written) (nonempty : tests ≠ []) :
    some (Sql.written (anyOf alternatives)) = (Test.anyOf? tests).map Test.written := by
  cases made : Test.anyOf? tests with
  | none =>
      cases tests with
      | nil => exact absurd rfl nonempty
      | cons _ _ => cases made
  | some test =>
      rw [Option.map_some, Test.written_anyOf? made, anyOf, Sql.written_cons_raw,
        Sql.written_append, Sql.written_intercalate, same, Sql.written_cons_raw, Sql.written_nil,
        Written.append_empty, Written.append_assoc]

/-- A condition is written as its test is. -/
theorem Condition.map_written {condition : Condition} (offers : condition.Offers) :
    (condition.fragments? .sqlite).map Sql.written = condition.test?.map Test.written := by
  cases condition with
  | hasTag scope pattern => exact congrArg some (written_hasTagTest scope pattern)
  | idIn ids =>
      simp only [fragments?, test?, Option.map_some]
      split <;> simp
  | idNotIn ids =>
      simp only [fragments?, test?, Option.map_some]
      split <;> simp
  | fullText words =>
      simp only [fragments?, test?, Sql.Dialect.fullText?, Option.map_map]
      refine congrArg (Option.map · _) (funext fun made => ?_)
      cases made <;> simp [Sql.textBind]
  | compare column comparison value =>
      cases column <;> simp [fragments?, test?, Column.sql, Column.cell, Sql.intBind]
  | language pattern => simp [fragments?, test?, Sql.textBind]
  | anySourceName patterns =>
      refine written_anyOf ?_ fun empty => offers (List.map_eq_nil_iff.mp empty)
      rw [List.map_map, List.map_map]
      exact List.map_congr_left fun pattern _ => written_sourceTest .name pattern (Or.inl rfl)
  | anySourceUrl texts =>
      refine written_anyOf ?_ fun empty => offers (List.map_eq_nil_iff.mp empty)
      rw [List.map_map, List.map_map]
      exact List.map_congr_left fun text _ => written_sourceTest .url (urlPattern text) (Or.inr rfl)
  | inSeries => simp [fragments?, test?, belongs, Comparison.symbol]
  | visible => simp [fragments?, test?]

/-- Conditions can stand beside each other without further parentheses. -/
theorem Condition.wellGrouped_test {condition : Condition} {test : Test}
    (made : condition.test? = some test) : 2 ≤ test.strength ∧ test.WellGrouped := by
  have sources : ∀ column pattern, 1 ≤ (sourceTest column pattern).strength ∧
      (sourceTest column pattern).WellGrouped := by
    intro column pattern
    simp [sourceTest, belongs, Test.strength, Test.WellGrouped]
  cases condition with
  | hasTag scope pattern =>
      cases made
      rw [hasTagTest, tagTest]
      split <;> simp [belongs, Test.strength, Test.WellGrouped]
  | anySourceName patterns =>
      exact Test.wellGrouped_anyOf? made (List.forall_mem_map.mpr fun _ _ => sources _ _)
  | anySourceUrl texts =>
      exact Test.wellGrouped_anyOf? made (List.forall_mem_map.mpr fun _ _ => sources _ _)
  | fullText words =>
      rcases Option.map_eq_some_iff.mp made with ⟨condition, _, rfl⟩
      cases condition <;> exact ⟨Nat.le_refl 2, trivial⟩
  | idIn ids | idNotIn ids =>
      cases made
      split <;> exact ⟨Nat.le_refl 2, trivial⟩
  | compare _ _ _ | language _ | inSeries | visible =>
      cases made
      exact ⟨Nat.le_refl 2, trivial⟩

/-! ## Conditions as they are kept -/

section Kept

variable (store : Store) (archive : Archive)

theorem keeps_belongs {table : TableName} {scope : Scope} {owner : Int64}
    (own : scope.value ⟨table, .archive⟩ = .integer owner.toInt)
    (outer : scope.value ⟨.archives, .id⟩ = .integer archive.id.toInt) :
    (belongs table).keeps store scope = decide (owner = archive.id) := by
  have other : (Sql.Operand.column ⟨.archives, .id⟩).value scope =
      .integer archive.id.toInt := outer
  exact Test.keeps_equal_ids store scope own other

/-- The rows of a link and a tag, as the subquery for a tag tries them. -/
def tagScope (link : Store.Link) (tag : Listing.Tag) : Scope :=
  ((Scope.ofArchive archive).add .links (Sql.linkRecord link)).add .tags (Sql.tagRecord tag)

theorem keeps_tagTest (scope pattern : String) (link : Store.Link) (tag : Listing.Tag) :
    (tagTest scope pattern).keeps store (tagScope archive link tag) =
      (decide (link.archive = archive.id) && Store.carriesMatch scope pattern tag) := by
  rw [tagTest, Store.carriesMatch]
  split
  · rw [Test.keeps_and, keeps_belongs store archive rfl rfl, Test.keeps_grouped, Test.keeps_or,
      Test.keeps_like_text store _ pattern rfl, Test.keeps_like store _ pattern rfl]
  · rw [Test.keeps_and, Test.keeps_and, keeps_belongs store archive rfl rfl,
      Test.keeps_like_text store _ pattern rfl, Test.keeps_equal_text store _ scope rfl,
      Bool.and_assoc]

theorem keeps_hasTagTest (scope pattern : String) :
    (hasTagTest scope pattern).keeps store (.ofArchive archive) =
      store.carries archive.id (Store.carriesMatch scope pattern) := by
  have links : TableName.records store .links = store.links.map Sql.linkRecord := rfl
  have tags : TableName.records store .tags = store.tags.map Sql.tagRecord := rfl
  rw [hasTagTest, Test.keeps_exists_joined, Store.carries, links, tags, List.any_map]
  congr 1
  funext link
  rw [Function.comp_apply, List.any_map, List.and_any_distrib_left]
  congr 1
  funext tag
  -- The subquery first joins the tag to the link, and then asks for the archive of the link.
  calc _ = (decide (tag.id = link.tag) &&
          (decide (link.archive = archive.id) && Store.carriesMatch scope pattern tag)) :=
        congr (congrArg _ (Sql.Value.isTrue_compared_ids tag.id link.tag))
          (keeps_tagTest store archive scope pattern link tag)
    _ = _ := Bool.and_left_comm _ _ _

/-- A source is tried by a column that may be missing. -/
theorem keeps_sourceTest {column : Sql.ColumnName} (text : Store.Source → Option String)
    (pattern : String) (own : ∀ source, Sql.sourceRecord source column = .ofText? (text source)) :
    (sourceTest column pattern).keeps store (.ofArchive archive) =
      (store.sourcesOf archive.id).any fun source => Store.likeOption pattern (text source) := by
  rw [sourceTest, Test.keeps_exists_single, Sql.TableName.records, List.any_map, Store.sourcesOf,
    List.any_filter]
  congr 1
  funext source
  have own : ((Scope.ofArchive archive).add .sources (Sql.sourceRecord source)).value
      ⟨.sources, column⟩ = .ofText? (text source) := own source
  rw [Function.comp_apply, Test.keeps_and, keeps_belongs store archive rfl rfl,
    Test.keeps_like store _ pattern own]

/-- A condition keeps the archives of which it holds. -/
theorem Condition.keeps_test {condition : Condition} {test : Test}
    (made : condition.test? = some test) :
    test.keeps store (.ofArchive archive) = condition.holds store archive := by
  cases condition with
  | hasTag scope pattern =>
      cases made
      exact keeps_hasTagTest store archive scope pattern
  | idIn ids =>
      cases made
      split
      · rename_i empty
        rw [List.isEmpty_iff.mp empty]
        rfl
      · rw [Test.keeps_among store _ false ids rfl, Bool.false_xor]
        rfl
  | idNotIn ids =>
      cases made
      split
      · rename_i empty
        rw [List.isEmpty_iff.mp empty]
        rfl
      · rw [Test.keeps_among store _ true ids rfl, Bool.true_xor]
        rfl
  | fullText words =>
      rcases Option.map_eq_some_iff.mp made with ⟨condition, compiled, rfl⟩
      rw [Condition.holds, Store.answersWords, compiled]
      cases condition with
      | matching expression =>
          exact (Test.keeps_indexed store _ false expression rfl).trans (Bool.false_xor _)
      | excluding expression =>
          exact (Test.keeps_indexed store _ true expression rfl).trans (Bool.true_xor _)
  | compare column comparison value =>
      cases made
      cases column <;> exact Test.keeps_compare store _ comparison rfl rfl
  | language pattern =>
      cases made
      exact Test.keeps_like store _ pattern rfl
  | anySourceName patterns =>
      rw [Test.keeps_anyOf? store _ made, List.any_map]
      congr 1
      funext pattern
      exact keeps_sourceTest store archive (fun source => some source.name) pattern fun _ => rfl
  | anySourceUrl texts =>
      rw [Test.keeps_anyOf? store _ made, List.any_map]
      congr 1
      funext text
      exact keeps_sourceTest store archive Store.Source.url (urlPattern text) fun _ => rfl
  | inSeries =>
      cases made
      rw [Test.keeps_exists_single, Sql.TableName.records, List.any_map]
      congr 1
      funext membership
      exact keeps_belongs store archive rfl rfl
  | visible =>
      cases made
      rw [Test.keeps_isNull, Condition.holds]
      exact Sql.Value.isMissing_ofText? archive.deletedAt

/-- A condition of which nothing is written holds of every archive. -/
theorem Condition.holds_of_unwritten {condition : Condition} (offers : condition.Offers)
    (unwritten : condition.test? = none) : condition.holds store archive = true := by
  cases condition with
  | fullText words =>
      rw [Condition.holds, Store.answersWords, Option.map_eq_none_iff.mp unwritten]
  | anySourceName patterns =>
      cases patterns with
      | nil => exact absurd rfl offers
      | cons _ _ => cases unwritten
  | anySourceUrl texts =>
      cases texts with
      | nil => exact absurd rfl offers
      | cons _ _ => cases unwritten
  | hasTag _ _ | idIn _ | idNotIn _ | compare _ _ _ | language _ | inSeries | visible =>
      cases unwritten

end Kept

/-! ## Orders as they are written -/

/-- The terms that a key orders by. -/
def keyTerms (key : Search.SortKey) (direction : Search.Direction) : List OrderTerm :=
  match key with
  | .title => [⟨.noCase ⟨.archives, .title⟩, direction⟩]
  | .pages => [⟨.column ⟨.archives, .pages⟩, direction⟩]
  | .releasedAt =>
      [⟨.isNull ⟨.archives, .releasedAt⟩, .ascending⟩,
        ⟨.column ⟨.archives, .releasedAt⟩, direction⟩]
  | .createdAt | .random => [⟨.column ⟨.archives, .createdAt⟩, direction⟩]

/-- The terms that tell apart what a key does not. -/
def tieTerms (direction : Search.Direction) : List OrderTerm :=
  [⟨.column ⟨.archives, .createdAt⟩, direction⟩, ⟨.column ⟨.archives, .id⟩, direction⟩]

/-- Missing dates come last in both directions, because whether one is missing is asked first. -/
theorem compareDates_of_terms (direction : Search.Direction) (a b : Option String) :
    (compare (if (Sql.Value.ofText? a).isMissing then 1 else 0)
      (if (Sql.Value.ofText? b).isMissing then 1 else 0)).then
        (direction.apply ((Sql.Value.ofText? a).order (.ofText? b))) =
      compareDates direction a b := by
  cases a with
  | none =>
      cases b with
      | none => cases direction <;> rfl
      | some _ => rfl
  | some _ => cases b <;> rfl

theorem orderBy_keyTerms (key : Search.SortKey) (direction : Search.Direction) (a b : Archive) :
    Sql.orderBy (keyTerms key direction) (.ofArchive a) (.ofArchive b) =
      compareKeys key direction a b := by
  cases key with
  | releasedAt =>
      have terms : keyTerms .releasedAt direction =
          [⟨.isNull ⟨.archives, .releasedAt⟩, .ascending⟩] ++
            [⟨.column ⟨.archives, .releasedAt⟩, direction⟩] := rfl
      rw [terms, Sql.orderBy_append, Sql.orderBy_singleton, Sql.orderBy_singleton]
      exact compareDates_of_terms direction a.releasedAt b.releasedAt
  | title | pages | createdAt | random => exact Sql.orderBy_singleton _ _ _

/-- The written order is that of the archives. -/
theorem orderBy_terms (key : Search.SortKey) (direction : Search.Direction) (a b : Archive) :
    Sql.orderBy (keyTerms key direction ++ tieTerms direction) (.ofArchive a) (.ofArchive b) =
      compareArchives key direction a b := by
  rw [Sql.orderBy_append, orderBy_keyTerms, compareArchives]
  exact congrArg (Ordering.then _) (congrArg (Ordering.then _) Ordering.then_eq)

theorem separated_keyTerms (key : Search.SortKey) (direction : Search.Direction) :
    Written.separated ", " ((keyTerms key direction).map fun term => .text term.sql) =
      .text (Sql.Dialect.sqlite.orderExpression key direction) := by
  cases key with
  | title =>
      change _ = Written.text ("archives.title COLLATE NOCASE " ++ Sql.directionKeyword direction)
      simp [keyTerms, Written.separated, OrderTerm.sql, OrderKey.sql]
  | pages =>
      change _ = Written.text ("archives.pages " ++ Sql.directionKeyword direction)
      simp [keyTerms, Written.separated, OrderTerm.sql, OrderKey.sql]
  | releasedAt =>
      change _ = Written.text ("archives.released_at IS NULL ASC, archives.released_at " ++
        Sql.directionKeyword direction)
      cases direction <;>
        simp [keyTerms, Written.separated, OrderTerm.sql, OrderKey.sql, Sql.directionKeyword]
  | createdAt | random =>
      change _ = Written.text ("archives.created_at " ++ Sql.directionKeyword direction)
      simp [keyTerms, Written.separated, OrderTerm.sql, OrderKey.sql]

theorem separated_tieTerms (direction : Search.Direction) :
    Written.separated ", " ((tieTerms direction).map fun term => .text term.sql) =
      .text ("archives.created_at " ++ Sql.directionKeyword direction ++
        (", archives.id " ++ Sql.directionKeyword direction)) := by
  cases direction <;>
    simp [tieTerms, Written.separated, OrderTerm.sql, OrderKey.sql, Sql.directionKeyword]

theorem written_orderFragment (plan : Plan) :
    Sql.written [plan.orderFragment .sqlite] =
      .text " ORDER BY " ++ .separated ", "
        ((keyTerms plan.key plan.direction ++ tieTerms plan.direction).map fun term =>
          .text term.sql) := by
  have some_key : (keyTerms plan.key plan.direction).map
      (fun term => Written.text term.sql) ≠ [] := by
    cases plan.key <;> exact List.cons_ne_nil _ _
  have some_tie : (tieTerms plan.direction).map (fun term => Written.text term.sql) ≠ [] :=
    List.cons_ne_nil _ _
  have opening : ", archives.created_at " = ", " ++ "archives.created_at " := by simp
  rw [List.map_append, Written.separated_append_separated some_key some_tie,
    separated_keyTerms, separated_tieTerms, orderFragment, opening]
  simp only [Sql.written_cons_raw, Sql.written_nil, Written.append_empty, Written.text_append_text,
    String.append_assoc]

/-! ## The statement as a selection -/

/-- A condition on a count as a selection has it. -/
def Having.countTest (having : Having) : CountTest :=
  ⟨having.target.reference, having.comparison, having.value⟩

/-- The statement of a plan as a selection. -/
def selection (plan : Plan) : Selection where
  joins := plan.leftJoins
  condition := Test.allOf? (plan.conditions.filterMap Condition.test?)
  grouping := if plan.needsGrouping then some (plan.having.map Having.countTest) else none
  order := keyTerms plan.key plan.direction ++ tieTerms plan.direction

section Selected

variable {plan : Plan}

/-- Conditions behind a keyword, if there are any. -/
theorem written_conjunction (keyword : String) {parts : List (List Fragment)}
    (some_part : parts ≠ []) : Sql.written (conjunction keyword parts) =
      .text keyword ++ .separated " AND " (parts.map Sql.written) := by
  have full : parts.isEmpty = false := by
    cases parts with
    | nil => exact absurd rfl some_part
    | cons _ _ => rfl
  rw [conjunction, full, if_neg Bool.false_ne_true, Sql.written_cons_raw, Sql.written_intercalate]

theorem written_where (offers : ∀ condition ∈ plan.conditions, condition.Offers) :
    Sql.written (conjunction " WHERE " (plan.writtenConditions .sqlite)) =
      plan.selection.whereClause := by
  have same : (plan.writtenConditions .sqlite).map Sql.written =
      (plan.conditions.filterMap Condition.test?).map Test.written := by
    rw [writtenConditions, List.map_filterMap, List.map_filterMap]
    exact List.filterMap_congr fun condition member =>
      Condition.map_written (offers condition member)
  rw [Selection.whereClause, selection]
  cases made : Test.allOf? (plan.conditions.filterMap Condition.test?) with
  | none =>
      have none : plan.writtenConditions .sqlite = [] := by
        cases tests : plan.conditions.filterMap Condition.test? with
        | nil =>
            rw [tests] at same
            exact List.map_eq_nil_iff.mp same
        | cons _ _ =>
            rw [tests] at made
            cases made
      rw [none]
      rfl
  | some test =>
      have some_part : plan.writtenConditions .sqlite ≠ [] := by
        intro none
        rw [none, List.map_nil, eq_comm, List.map_eq_nil_iff] at same
        rw [same] at made
        cases made
      rw [written_conjunction " WHERE " some_part, same, ← Test.written_allOf? made]

theorem written_group (uncounted : plan.joins = [] → plan.having = []) :
    Sql.written (if plan.needsGrouping then [.raw (" GROUP BY " ++ Sql.archiveId.sql)] else []) ++
        Sql.written (conjunction " HAVING " (plan.having.map fun having =>
          [.raw (having.target.reference.distinctCount ++ " " ++ having.comparison.symbol ++ " "),
            Sql.intBind having.value])) =
      plan.selection.groupClause := by
  have counts : (plan.having.map fun having =>
      [Fragment.raw (having.target.reference.distinctCount ++ " " ++ having.comparison.symbol ++
        " "), Sql.intBind having.value]).map Sql.written =
      (plan.having.map Having.countTest).map CountTest.written := by
    rw [List.map_map, List.map_map]
    exact List.map_congr_left fun having _ => by
      simp [Sql.intBind, CountTest.written, Having.countTest]
  rw [Selection.groupClause, selection]
  split
  · cases havings : plan.having with
    | nil => simp [conjunction]
    | cons first rest =>
        rw [← havings, written_conjunction " HAVING " (by simp [havings]), counts, havings]
        simp
  · rename_i ungrouped
    have none : plan.having = [] := by
      apply uncounted
      simpa [needsGrouping] using ungrouped
    simp [none, conjunction]

/-- The statement of a plan is its selection as it is written. -/
theorem written_fragments (offers : ∀ condition ∈ plan.conditions, condition.Offers)
    (uncounted : plan.joins = [] → plan.having = []) :
    Sql.written (plan.fragments .sqlite) = plan.selection.written := by
  rw [fragments_eq_joinedFragments, joinedFragments, Sql.written_cons_raw, Sql.written_append,
    Sql.written_append, Sql.written_append, Sql.written_append, written_where offers,
    written_orderFragment, Selection.written, ← written_group uncounted]
  simp only [Written.append_assoc]
  rfl

/-! ## What the selection answers -/

variable {store : Store}

/-- The condition of the selection keeps the archives of which all conditions hold. -/
theorem keeps_conditions {conditions : List Condition} (archive : Archive)
    (offers : ∀ condition ∈ conditions, condition.Offers) :
    ((Test.allOf? (conditions.filterMap Condition.test?)).all fun test =>
        test.keeps store (.ofArchive archive)) =
      conditions.all fun condition => condition.holds store archive := by
  rw [Test.all_allOf?]
  induction conditions with
  | nil => rfl
  | cons condition rest inductionHypothesis =>
      rcases List.forall_mem_cons.mp offers with ⟨first, others⟩
      rw [List.all_cons, ← inductionHypothesis others]
      cases made : condition.test? with
      | none =>
          rw [List.filterMap_cons_none made,
            Condition.holds_of_unwritten store archive first made, Bool.true_and]
      | some test =>
          rw [List.filterMap_cons_some made, List.all_cons,
            Condition.keeps_test store archive made]

/-- The selection answers with the rows that are counted as groups. -/
theorem unordered_selection (offers : ∀ condition ∈ plan.conditions, condition.Offers) :
    plan.selection.unordered store = plan.joinedAnswer store := by
  have rows : plan.selection.rows store = plan.joinedRows store := by
    rw [Selection.rows, joinedRows]
    congr 1
    funext row
    exact keeps_conditions row.archive offers
  have counted : ∀ group : List Joined, ((plan.having.map Having.countTest).all fun test =>
      test.holds group) = plan.having.all fun having => having.holdsOf group :=
    fun group => List.all_map
  rw [Selection.unordered, rows, joinedAnswer, selection]
  cases plan.needsGrouping with
  | true => simp only [if_true, counted]
  | false => rfl

/-- The selection answers with the rows of the plan. -/
theorem answer_selection (keyed : store.Keyed)
    (ownSources : (store.sources.map Store.Source.id).Nodup) (separate : Separate plan.joins)
    (reached : ∀ having ∈ plan.having, having.target.Reached plan.joins)
    (offers : ∀ condition ∈ plan.conditions, condition.Offers) :
    plan.selection.answer store = plan.rows store := by
  have selected : plan.select store = ((plan.joinedAnswer store).map Joined.archive).mergeSort
      fun a b => (compareArchives plan.key plan.direction a b).isLE := by
    rw [archives_joinedAnswer keyed ownSources separate reached]
    rfl
  have ordered : ∀ a b : Joined, Sql.orderBy plan.selection.order (.ofArchive a.archive)
      (.ofArchive b.archive) = compareArchives plan.key plan.direction a.archive b.archive :=
    fun a b => orderBy_terms plan.key plan.direction a.archive b.archive
  rw [Selection.answer, unordered_selection offers, rows, selected, ← List.map_mergeSort,
    List.map_map]
  · simp only [ordered]
    rfl
  · exact fun _ _ _ _ => rfl

/-- The condition of the selection is read as it stands. -/
theorem wellGrouped_selection : plan.selection.WellGrouped := by
  intro test made
  refine Test.wellGrouped_allOf? made fun other member => ?_
  rcases List.mem_filterMap.mp member with ⟨condition, _, isTest⟩
  exact Condition.wellGrouped_test isTest

end Selected

/-- The statement of a compiled plan, read as SQL, answers with the rows of the plan: its text and
its binds are those of a selection whose condition is read as it stands, and what the selection
answers in a store is what the plan means, in the same order. -/
theorem statement_answers_with_rows {store : Store} (keyed : store.Keyed)
    (ownSources : (store.sources.map Store.Source.id).Nodup) (query : Query)
    (resolution : Resolution) (request : Search.Request) (options : Search.Options) :
    let plan := ofQuery query resolution request options
    plan.render .sqlite =
        ⟨.sqlite, plan.selection.written.sql, plan.selection.written.binds⟩ ∧
      plan.selection.WellGrouped ∧ plan.selection.answer store = plan.rows store := by
  intro plan
  have reached : ∀ having ∈ plan.having, having.target.Reached plan.joins :=
    fun _ member => reached_ofQuery member
  have uncounted : plan.joins = [] → plan.having = [] := by
    intro unjoined
    refine List.eq_nil_iff_forall_not_mem.mpr fun having member => ?_
    exact having.target.not_reached_nil (unjoined ▸ reached having member)
  have offers := offers_of_mem_conditions query resolution request options
  refine ⟨?_, wellGrouped_selection, answer_selection keyed ownSources
    (separate_ofQuery query resolution request options) reached offers⟩
  rw [render, Sql.render_sqlite, written_fragments offers uncounted]

/-- The statement for archives with more than one source and a source at an address. -/
example :
    let plan : Plan :=
      ⟨[.visible, .anySourceUrl ["x.org"]], [.sources], [⟨.sources, .greater, 1⟩], .title, .ascending⟩
    plan.selection.written.sql =
        "SELECT archives.id, archives.title FROM archives" ++
          " LEFT JOIN archive_sources AS source_links ON source_links.archive_id = archives.id" ++
          " WHERE archives.deleted_at IS NULL AND (EXISTS (SELECT 1 FROM archive_sources" ++
          " WHERE archive_sources.archive_id = archives.id AND archive_sources.url LIKE ?))" ++
          " GROUP BY archives.id HAVING COUNT(DISTINCT source_links.id) > ?" ++
          " ORDER BY archives.title COLLATE NOCASE ASC, archives.created_at ASC, archives.id ASC" ∧
      plan.selection.written.binds = [.text "%x.org%", .int 1] := by
  decide +kernel

end Plan
end Gallery
