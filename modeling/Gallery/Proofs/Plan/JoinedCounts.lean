import Gallery.Proofs.Plan.Size
import Gallery.Proofs.Sql.LeftJoins
import Gallery.Proofs.Store.Keyed

namespace Gallery
namespace Plan

open Sql (Fragment Dialect Value Field Reference JoinedTable LeftJoin Joined HasValue joinAll
  archiveId archivesName countDistinct groups intBind)
open Query (NumberFilter)
open Store (Archive)

/-!
# Counts over joined tables

A plan takes its counts from one statement, which joins a table for every count and
groups the product by archive.  The meaning of a plan takes each count separately for
each archive.  Here the two are the same: the statement is read as joins, conditions,
groups and counts of distinct values, and it answers with the archives that the meaning
selects, each in one row.

The joins of a plan do not disturb each other, since no two have the same name and each
hangs on one that stands before it.  So a column has the values that its own join
admits, whatever the product with the other joins is.  Distinct values are then counted
by the rows of the table itself, of which no two of one archive have the same value.
-/

/-! ## The statement as joins and counts -/

/-- What a join of a plan joins. -/
def CountJoin.leftJoin : CountJoin → LeftJoin
  | .tags => ⟨.links, "tag_links", .archive, archiveId, none⟩
  | .sources => ⟨.sources, "source_links", .archive, archiveId, none⟩
  | .tagsIn label scope => ⟨.tags, label, .id, ⟨"tag_links", .tag⟩, some (.scope, scope)⟩

theorem CountJoin.fragments_leftJoin (join : CountJoin) :
    join.leftJoin.fragments = join.fragments := by
  cases join with
  | tags =>
      have written : CountJoin.tags.leftJoin.sql =
          " LEFT JOIN archive_tags AS tag_links ON tag_links.archive_id = archives.id" := by
        decide +kernel
      rw [LeftJoin.fragments, written]
      rfl
  | sources =>
      have written : CountJoin.sources.leftJoin.sql =
          " LEFT JOIN archive_sources AS source_links ON source_links.archive_id = archives.id" := by
        decide +kernel
      rw [LeftJoin.fragments, written]
      rfl
  | tagsIn label scope =>
      have opening : " LEFT JOIN " ++ JoinedTable.tags.sql ++ " AS " = " LEFT JOIN tags AS " := by
        decide +kernel
      have middle : "." ++ Field.id.sql ++ " = " ++ (Reference.mk "tag_links" .tag).sql ++ " AND " =
          ".id = tag_links.tag_id AND " := by decide +kernel
      have closing : "." ++ Field.scope.sql ++ " = " = ".namespace = " := by decide +kernel
      rw [leftJoin, LeftJoin.fragments, LeftJoin.sql_of_bound, opening, middle, closing]
      rfl

/-- The column whose distinct values are counted. -/
def Target.reference : Target → Reference
  | .tags => ⟨"tag_links", .tag⟩
  | .sources => ⟨"source_links", .id⟩
  | .tagsIn label => ⟨label, .id⟩

theorem Target.sql_eq_distinctCount (target : Target) :
    target.sql = target.reference.distinctCount := by
  cases target with
  | tags | sources => decide +kernel
  | tagsIn label =>
      have closing : "." ++ Field.id.sql ++ ")" = ".id)" := by decide +kernel
      calc Target.sql (.tagsIn label)
          = "COUNT(DISTINCT " ++ label ++ ("." ++ Field.id.sql ++ ")") :=
            congrArg ("COUNT(DISTINCT " ++ label ++ ·) closing.symm
        _ = (Target.tagsIn label).reference.distinctCount := by
            unfold reference Reference.distinctCount Reference.sql
            ac_rfl

/-- The joins of a plan as they are written. -/
def leftJoins (plan : Plan) : List LeftJoin :=
  (orderedJoins plan.joins).map CountJoin.leftJoin

/-- The statement of a plan, written from the joins and counts that are evaluated below. -/
def joinedFragments (plan : Plan) (dialect : Dialect) : List Fragment :=
  .raw "SELECT archives.id, archives.title FROM archives" ::
    (plan.leftJoins.flatMap LeftJoin.fragments ++
      conjunction " WHERE " (plan.writtenConditions dialect) ++
      (if plan.needsGrouping then [.raw (" GROUP BY " ++ archiveId.sql)] else []) ++
      conjunction " HAVING " (plan.having.map fun having =>
        [.raw (having.target.reference.distinctCount ++ " " ++ having.comparison.symbol ++ " "),
          intBind having.value]) ++
      [plan.orderFragment dialect])

theorem fragments_eq_joinedFragments (plan : Plan) (dialect : Dialect) :
    plan.fragments dialect = plan.joinedFragments dialect := by
  have joins : (orderedJoins plan.joins).flatMap CountJoin.fragments =
      plan.leftJoins.flatMap LeftJoin.fragments := by
    rw [leftJoins, List.flatMap_map]
    exact congrArg (orderedJoins plan.joins).flatMap
      (funext fun join => join.fragments_leftJoin.symm)
  have grouping : " GROUP BY archives.id" = " GROUP BY " ++ archiveId.sql := by decide +kernel
  rw [fragments, joinedFragments, joins, grouping]
  unfold Having.fragments
  simp only [Target.sql_eq_distinctCount]

/-! ## Its answer -/

/-- The rows of the joined tables that satisfy the conditions. -/
def joinedRows (plan : Plan) (store : Store) : List Joined :=
  (joinAll store plan.leftJoins (store.archives.map Joined.ofArchive)).filter fun row =>
    plan.conditions.all fun condition => condition.holds store row.archive

/-- The archives that satisfy the conditions on rows. -/
def candidates (plan : Plan) (store : Store) : List Archive :=
  store.archives.filter fun archive =>
    plan.conditions.all fun condition => condition.holds store archive

/-- Whether the number of distinct values in a group compares as it should. -/
def Having.holdsOf (group : List Joined) (having : Having) : Bool :=
  having.comparison.holds (countDistinct group having.target.reference) having.value.toInt

/-- The rows of an answer before they are sorted: where tables are joined, one of each group that
satisfies the conditions on counts. -/
def joinedAnswer (plan : Plan) (store : Store) : List Joined :=
  if plan.needsGrouping then
    ((groups (plan.joinedRows store)).filter fun group =>
      plan.having.all fun having => having.holdsOf group).filterMap List.head?
  else plan.joinedRows store

/-! ## Joins that do not disturb each other -/

/-- What a plan guarantees of its joins: none is there twice, labels are made of numbers and used
for one namespace each, and the join on all tags is there where another one hangs on it. -/
structure Separate (joins : List CountJoin) : Prop where
  distinct : joins.Nodup
  labelled : ∀ {name scope}, .tagsIn name scope ∈ joins → ∃ number, name = label number
  unique : ∀ {name first second}, .tagsIn name first ∈ joins → .tagsIn name second ∈ joins →
    first = second
  hanging : ∀ {name scope}, .tagsIn name scope ∈ joins → .tags ∈ joins

/-- Whether the joins reach the column that is counted. -/
def Target.Reached (joins : List CountJoin) : Target → Prop
  | .tags => .tags ∈ joins
  | .sources => .sources ∈ joins
  | .tagsIn name => ∃ scope, .tagsIn name scope ∈ joins

theorem Target.not_reached_nil (target : Target) : ¬target.Reached [] := by
  cases target <;> simp [Reached]

theorem tags_of_requested {number : Nat} {filters : List NumberFilter} {name scope : String}
    (requested : .tagsIn name scope ∈ requestedJoins number filters) :
    .tags ∈ requestedJoins number filters := by
  induction filters generalizing number with
  | nil => cases requested
  | cons filter others inductionHypothesis =>
      rcases filter with ⟨subject, comparison, value⟩
      cases subject with
      | pages | size => exact inductionHypothesis requested
      | tagCount | namespaceCount _ => exact List.mem_cons_self
      | sourceCount =>
          rcases List.mem_cons.mp requested with impossible | inOthers
          · cases impossible
          · exact List.mem_cons_of_mem _ (inductionHypothesis inOthers)

/-- Every count asks for the joins that it needs. -/
theorem reached_of_mem_countsFrom {number : Nat} {filters : List NumberFilter} {count : Count}
    (member : count ∈ countsFrom number filters) : count.having.target.Reached count.joins := by
  induction filters generalizing number with
  | nil => cases member
  | cons filter others inductionHypothesis =>
      rcases filter with ⟨subject, comparison, value⟩
      cases subject with
      | pages | size => exact inductionHypothesis member
      | tagCount | sourceCount =>
          rcases List.mem_cons.mp member with rfl | inOthers
          · exact List.mem_singleton_self _
          · exact inductionHypothesis inOthers
      | namespaceCount name =>
          rcases List.mem_cons.mp member with rfl | inOthers
          · exact ⟨name, List.mem_cons_of_mem _ (List.mem_singleton_self _)⟩
          · exact inductionHypothesis inOthers

theorem Target.Reached.mono {first second : List CountJoin} {target : Target}
    (reached : target.Reached first) (inside : first ⊆ second) : target.Reached second := by
  cases target with
  | tags | sources => exact inside reached
  | tagsIn name =>
      rcases reached with ⟨scope, member⟩
      exact ⟨scope, inside member⟩

/-- The joins of a plan are separate. -/
theorem separate_ofQuery (query : Query) (resolution : Resolution) (request : Search.Request)
    (options : Search.Options) : Separate (ofQuery query resolution request options).joins := by
  have requested : ∀ {join}, join ∈ (ofQuery query resolution request options).joins ↔
      join ∈ requestedJoins 0 query.numbers := by
    intro join
    exact mem_foldl_ensureJoin.trans (or_iff_right (List.not_mem_nil))
  refine ⟨nodup_foldl_ensureJoin _ List.nodup_nil, ?_, ?_, ?_⟩
  · intro name scope member
    rcases exists_label_of_requested (requested.mp member) with ⟨number, -, isLabel⟩
    exact ⟨number, isLabel⟩
  · intro name first second inFirst inSecond
    exact requested_unique (requested.mp inFirst) (requested.mp inSecond)
  · intro name scope member
    exact requested.mpr (tags_of_requested (requested.mp member))

/-- The joins of a plan reach everything that it counts. -/
theorem reached_ofQuery {query : Query} {resolution : Resolution} {request : Search.Request}
    {options : Search.Options} {having : Having}
    (member : having ∈ (ofQuery query resolution request options).having) :
    having.target.Reached (ofQuery query resolution request options).joins := by
  rcases List.mem_map.mp member with ⟨count, inCounts, rfl⟩
  refine (reached_of_mem_countsFrom inCounts).mono fun join needed => ?_
  exact mem_foldl_ensureJoin.mpr (Or.inr (List.mem_flatMap.mpr ⟨count, inCounts, needed⟩))

/-! ## Names and order of joins -/

/-- The first character of the name of a join, by which the kinds of joins are told apart. -/
def CountJoin.initial : CountJoin → Char
  | .tags => 't'
  | .sources => 's'
  | .tagsIn _ _ => 'n'

section Joins

variable {joins : List CountJoin}

theorem Separate.head?_name (separate : Separate joins) {join : CountJoin} (member : join ∈ joins) :
    join.leftJoin.name.toList.head? = some join.initial := by
  cases join with
  | tags | sources => decide +kernel
  | tagsIn name scope =>
      rcases separate.labelled member with ⟨number, rfl⟩
      have opening : "ns_".toList = ['n', 's', '_'] := by decide +kernel
      change (label number).toList.head? = some 'n'
      rw [label, String.toList_append, opening]
      rfl

/-- No join takes the name of the archives. -/
theorem Separate.archivesName_ne (separate : Separate joins) {join : CountJoin}
    (member : join ∈ joins) : archivesName ≠ join.leftJoin.name := by
  intro same
  have initial := separate.head?_name member
  rw [← same] at initial
  have archives : archivesName.toList.head? = some 'a' := by decide +kernel
  rw [archives, Option.some.injEq] at initial
  cases join <;> simp [CountJoin.initial] at initial

/-- No two joins have the same name. -/
theorem Separate.eq_of_name (separate : Separate joins) {first second : CountJoin}
    (inFirst : first ∈ joins) (inSecond : second ∈ joins)
    (same : first.leftJoin.name = second.leftJoin.name) : first = second := by
  have initials : first.initial = second.initial := by
    rw [← Option.some.injEq, ← separate.head?_name inFirst, ← separate.head?_name inSecond, same]
  cases first <;> cases second
  case tagsIn.tagsIn name scope other otherScope =>
    have sameName : name = other := same
    subst sameName
    rw [separate.unique inFirst inSecond]
  case tags.tags | sources.sources => rfl
  -- The others begin differently.
  all_goals simp [CountJoin.initial] at initials

theorem mem_orderedJoins {join : CountJoin} : join ∈ orderedJoins joins ↔ join ∈ joins := by
  cases join <;> simp [orderedJoins]

theorem Separate.nodup_orderedJoins (separate : Separate joins) : (orderedJoins joins).Nodup := by
  have same : joins.length = (orderedJoins joins).length := (length_orderedJoins joins).symm
  have inside : joins.Subperm (orderedJoins joins) :=
    List.subperm_of_subset separate.distinct fun _ member => mem_orderedJoins.mpr member
  exact (inside.perm_of_length_le same.ge).nodup_iff.mp separate.distinct

/-- The names of the joins in the order in which they are written. -/
theorem Separate.nodup_names (separate : Separate joins) :
    (((orderedJoins joins).map CountJoin.leftJoin).map LeftJoin.name).Nodup := by
  rw [List.map_map]
  refine separate.nodup_orderedJoins.map_on fun first inFirst second inSecond same => ?_
  exact separate.eq_of_name (mem_orderedJoins.mp inFirst) (mem_orderedJoins.mp inSecond) same

/-- A join on the tags of a namespace is written after the join that it hangs on. -/
theorem Separate.exists_tags_before (separate : Separate joins) {name scope : String}
    (member : .tagsIn name scope ∈ joins) :
    ∃ before between after, orderedJoins joins =
      before ++ .tags :: between ++ .tagsIn name scope :: after := by
  have shared : .tags ∈ joins.filter (· = .tags) :=
    List.mem_filter.mpr ⟨separate.hanging member, decide_eq_true rfl⟩
  have own : .tagsIn name scope ∈ joins.filter fun join => join ≠ .tags && join ≠ .sources :=
    List.mem_filter.mpr ⟨member, rfl⟩
  rcases List.append_of_mem shared with ⟨before, beside, isShared⟩
  rcases List.append_of_mem own with ⟨between, after, isOwn⟩
  refine ⟨before, beside ++ between, after ++ joins.filter (· = .sources), ?_⟩
  rw [orderedJoins, isShared, isOwn]
  simp only [List.append_assoc, List.cons_append]

end Joins

/-! ## The counts of one archive -/

/-- The rows that the joins make of an archive. -/
def archiveRows (store : Store) (joins : List CountJoin) (archive : Archive) : List Joined :=
  joinAll store ((orderedJoins joins).map CountJoin.leftJoin) [.ofArchive archive]

section Counts

variable {store : Store} {joins : List CountJoin} {archive : Archive}

/-- The rows of an archive speak of it. -/
theorem of_mem_archiveRows (separate : Separate joins) {row : Joined}
    (member : row ∈ archiveRows store joins archive) :
    row.archive = archive ∧ row.value archiveId = .integer archive.id.toInt := by
  have free : ∀ join ∈ (orderedJoins joins).map CountJoin.leftJoin, archivesName ≠ join.name :=
    List.forall_mem_map.mpr fun join inJoins =>
      separate.archivesName_ne (mem_orderedJoins.mp inJoins)
  rcases Sql.of_mem_joinAll free member with ⟨own, values⟩
  exact ⟨own, values .id⟩

theorem archiveRows_ne_nil : archiveRows store joins archive ≠ [] :=
  Sql.joinAll_ne_nil _ (List.cons_ne_nil _ _)

/-- A join that hangs on the archive reaches the rows of that archive, also in front of others. -/
theorem Separate.hasValue_split (separate : Separate joins) {before after : List CountJoin}
    {rest : List CountJoin} {join : CountJoin} {field : Field} {value : Value}
    (split : orderedJoins joins = before ++ join :: after ++ rest)
    (hangs : join.leftJoin.target = archiveId) (unbound : join.leftJoin.bound = none)
    (present : value ≠ .null) :
    HasValue (joinAll store ((before ++ join :: after).map CountJoin.leftJoin) [.ofArchive archive])
        ⟨join.leftJoin.name, field⟩ value ↔
      ∃ row ∈ join.leftJoin.table.rows store, row field = value ∧
        row join.leftJoin.field = .integer archive.id.toInt := by
  have distinct := separate.nodup_names
  rw [split, List.map_append, List.map_append] at distinct
  have distinct := (List.nodup_append.mp distinct).1
  rw [List.map_append, List.map_cons] at distinct ⊢
  refine Sql.hasValue_joinAll_archive distinct ?_ hangs unbound present
  refine List.forall_mem_map.mpr fun other inBefore => ?_
  apply separate.archivesName_ne
  rw [← mem_orderedJoins, split]
  exact List.mem_append_left _ (List.mem_append_left _ inBefore)

/-- A join that hangs on the archive reaches the rows of that archive. -/
theorem Separate.hasValue_of_mem (separate : Separate joins) {join : CountJoin} {field : Field}
    {value : Value} (member : join ∈ joins) (hangs : join.leftJoin.target = archiveId)
    (unbound : join.leftJoin.bound = none) (present : value ≠ .null) :
    HasValue (archiveRows store joins archive) ⟨join.leftJoin.name, field⟩ value ↔
      ∃ row ∈ join.leftJoin.table.rows store, row field = value ∧
        row join.leftJoin.field = .integer archive.id.toInt := by
  rcases List.append_of_mem (mem_orderedJoins.mpr member) with ⟨before, after, split⟩
  rw [archiveRows, split]
  apply separate.hasValue_split _ hangs unbound present
  · exact []
  · rw [split, List.append_nil]

theorem exists_linkRow_iff {value : Value} :
    (∃ row ∈ JoinedTable.links.rows store, row .tag = value ∧
        row .archive = .integer archive.id.toInt) ↔
      ∃ link ∈ store.links, link.archive = archive.id ∧ .integer link.tag.toInt = value := by
  simp only [JoinedTable.rows, List.mem_map, exists_exists_and_eq_and, Sql.linkRow,
    Value.integer.injEq, Int64.toInt_inj]
  exact exists_congr fun link => and_congr_right fun _ => And.comm

theorem exists_sourceRow_iff {value : Value} :
    (∃ row ∈ JoinedTable.sources.rows store, row .id = value ∧
        row .archive = .integer archive.id.toInt) ↔
      ∃ source ∈ store.sourcesOf archive.id, .integer source.id = value := by
  simp only [JoinedTable.rows, List.mem_map, exists_exists_and_eq_and, Sql.sourceRow,
    Value.integer.injEq, Int64.toInt_inj, Store.sourcesOf, List.mem_filter, decide_eq_true_eq]
  exact exists_congr fun source => by rw [and_assoc, and_comm (b := source.archive = archive.id)]

/-- A join on the tags of a namespace reaches the tags of the archive that are in it. -/
theorem Separate.hasValue_tagsIn (separate : Separate joins) {name scope : String} {value : Value}
    (member : .tagsIn name scope ∈ joins) (present : value ≠ .null) :
    HasValue (archiveRows store joins archive) ⟨name, .id⟩ value ↔
      ∃ tag ∈ store.tags, .integer tag.id.toInt = value ∧ tag.scope = scope ∧
        ∃ link ∈ store.links, link.archive = archive.id ∧ link.tag = tag.id := by
  rcases separate.exists_tags_before member with ⟨before, between, after, split⟩
  have distinct := separate.nodup_names
  have shared : ∀ tag : Listing.Tag,
      HasValue (joinAll store ((before ++ .tags :: between).map CountJoin.leftJoin)
        [.ofArchive archive]) ⟨"tag_links", .tag⟩ (.integer tag.id.toInt) ↔
      ∃ link ∈ store.links, link.archive = archive.id ∧ link.tag = tag.id := by
    intro tag
    refine (separate.hasValue_split split rfl rfl Value.noConfusion).trans ?_
    refine exists_linkRow_iff.trans ?_
    simp only [Value.integer.injEq, Int64.toInt_inj]
  rw [archiveRows, split, List.map_append, List.map_cons]
  rw [split, List.map_append, List.map_cons] at distinct
  refine (Sql.hasValue_joinAll_own (Sql.fresh_of_distinct distinct) present).trans ?_
  simp only [CountJoin.leftJoin, JoinedTable.rows, List.mem_map, exists_exists_and_eq_and,
    Sql.tagRow, shared, Option.all_some, Value.equals, Bool.and_eq_true, decide_eq_true_eq, ne_eq,
    reduceCtorEq, not_false_eq_true, true_and, Value.text.injEq]

/-- Where a column has the tags of some links of one archive, these links are counted. -/
theorem countDistinct_links (archive : Archive) {rows : List Joined} {reference : Reference}
    {wanted : Store.Link → Bool} (keyed : store.Keyed)
    (own : ∀ link, wanted link = true → link.archive = archive.id)
    (each : ∀ value, value ≠ .null → (HasValue rows reference value ↔
      ∃ link ∈ store.links, wanted link = true ∧ .integer link.tag.toInt = value)) :
    countDistinct rows reference = (store.links.filter wanted).length := by
  have distinct : ((store.links.filter wanted).map fun link => link.tag.toInt).Nodup := by
    refine (keyed.links.of_map.filter wanted).map_on fun first inFirst second inSecond same => ?_
    rcases List.mem_filter.mp inFirst with ⟨firstLink, firstWanted⟩
    rcases List.mem_filter.mp inSecond with ⟨secondLink, secondWanted⟩
    apply Store.eq_of_unique_key keyed.links firstLink secondLink
    rw [own first firstWanted, own second secondWanted, Int64.toInt_inj.mp same]
  refine Sql.countDistinct_eq_length distinct fun value present => ?_
  rw [each value present]
  simp only [List.mem_filter, and_assoc]

/-- Where a column has the sources of an archive, these are counted. -/
theorem countDistinct_sources {rows : List Joined} {reference : Reference}
    (ownSources : (store.sources.map Store.Source.id).Nodup)
    (each : ∀ value, value ≠ .null → (HasValue rows reference value ↔
      ∃ source ∈ store.sourcesOf archive.id, .integer source.id = value)) :
    countDistinct rows reference = (store.sourcesOf archive.id).length := by
  have distinct : ((store.sourcesOf archive.id).map fun source => (source.id : Int)).Nodup := by
    refine (ownSources.of_map.filter _).map_on fun first inFirst second inSecond same => ?_
    exact Store.eq_of_unique_key ownSources (List.mem_filter.mp inFirst).1
      (List.mem_filter.mp inSecond).1 (Int.natCast_inj.mp same)
  exact Sql.countDistinct_eq_length distinct each

/-- Each count over the joined rows is the number that it is meant to be. -/
theorem countDistinct_archiveRows (keyed : store.Keyed)
    (ownSources : (store.sources.map Store.Source.id).Nodup) (separate : Separate joins)
    {target : Target} (reached : target.Reached joins) :
    countDistinct (archiveRows store joins archive) target.reference =
      target.count store joins archive.id := by
  cases target with
  | tags =>
      apply countDistinct_links archive keyed fun link => of_decide_eq_true
      intro value present
      simp only [decide_eq_true_eq]
      exact (separate.hasValue_of_mem reached rfl rfl present).trans exists_linkRow_iff
  | sources =>
      refine countDistinct_sources ownSources fun value present => ?_
      exact (separate.hasValue_of_mem reached rfl rfl present).trans exists_sourceRow_iff
  | tagsIn name =>
      rcases reached with ⟨scope, member⟩
      have found := scopeOf_of_mem member fun other inOther => separate.unique inOther member
      rw [Target.count, found]
      apply countDistinct_links archive keyed
      · intro link wanted
        exact of_decide_eq_true (Bool.and_eq_true _ _ ▸ wanted).1
      · intro value present
        refine (separate.hasValue_tagsIn member present).trans ?_
        simp only [Bool.and_eq_true, decide_eq_true_eq, List.any_eq_true]
        constructor
        · rintro ⟨tag, inTags, isValue, inScope, link, inLinks, own, leads⟩
          exact ⟨link, inLinks, ⟨own, tag, inTags, leads.symm, inScope⟩, leads ▸ isValue⟩
        · rintro ⟨link, inLinks, ⟨own, tag, inTags, leads, inScope⟩, isValue⟩
          exact ⟨tag, inTags, leads ▸ isValue, inScope, link, inLinks, own, leads.symm⟩

end Counts

/-! ## The answer and the meaning -/

section Answer

variable {store : Store} {plan : Plan}

/-- The joined rows come archive by archive. -/
theorem joinedRows_eq_flatMap (separate : Separate plan.joins) :
    plan.joinedRows store = (plan.candidates store).flatMap (archiveRows store plan.joins) := by
  have rows : joinAll store plan.leftJoins (store.archives.map Joined.ofArchive) =
      store.archives.flatMap (archiveRows store plan.joins) := by
    rw [List.map_eq_flatMap, Sql.joinAll_flatMap]
    rfl
  rw [joinedRows, rows]
  refine Sql.filter_flatMap_of_item fun archive _ row member => ?_
  rw [(of_mem_archiveRows separate member).1]

/-- Grouping brings the rows of each archive together. -/
theorem groups_joinedRows (keyed : store.Keyed) (separate : Separate plan.joins) :
    groups (plan.joinedRows store) =
      (plan.candidates store).map (archiveRows store plan.joins) := by
  have distinct : ((plan.candidates store).map fun archive =>
      Value.integer archive.id.toInt).Nodup := by
    refine (keyed.archives.of_map.filter _).map_on fun first inFirst second inSecond same => ?_
    rw [Value.integer.injEq, Int64.toInt_inj] at same
    exact Store.eq_of_unique_key keyed.archives (List.mem_filter.mp inFirst).1
      (List.mem_filter.mp inSecond).1 same
  rw [joinedRows_eq_flatMap separate]
  exact Sql.groups_flatMap distinct (fun _ _ => archiveRows_ne_nil) fun archive _ row member =>
    (of_mem_archiveRows separate member).2

/-- A row of each archive shows that archive. -/
theorem archives_of_heads (separate : Separate plan.joins) (archives : List Archive) :
    ((archives.map (archiveRows store plan.joins)).filterMap List.head?).map Joined.archive =
      archives := by
  induction archives with
  | nil => rfl
  | cons archive archives inductionHypothesis =>
      cases rows : archiveRows store plan.joins archive with
      | nil => exact absurd rows archiveRows_ne_nil
      | cons row others =>
          have own : row.archive = archive :=
            (of_mem_archiveRows separate (rows ▸ List.mem_cons_self)).1
          rw [List.map_cons, rows, List.filterMap_cons_some List.head?_cons, List.map_cons, own,
            inductionHypothesis]

/-- The answer has the archives that satisfy the conditions and the separate counts. -/
theorem archives_joinedAnswer (keyed : store.Keyed)
    (ownSources : (store.sources.map Store.Source.id).Nodup) (separate : Separate plan.joins)
    (reached : ∀ having ∈ plan.having, having.target.Reached plan.joins) :
    (plan.joinedAnswer store).map Joined.archive = store.archives.filter (plan.holds store) := by
  have counted : ∀ archive, (plan.having.all fun having =>
      having.holdsOf (archiveRows store plan.joins archive)) =
      plan.having.all fun having => having.holds store plan.joins archive := by
    intro archive
    rw [Bool.eq_iff_iff, List.all_eq_true, List.all_eq_true]
    refine forall₂_congr fun having member => ?_
    rw [Having.holdsOf, countDistinct_archiveRows keyed ownSources separate (reached having member)]
    rfl
  have meaning : store.archives.filter (plan.holds store) =
      (plan.candidates store).filter fun archive =>
        plan.having.all fun having => having.holdsOf (archiveRows store plan.joins archive) := by
    rw [candidates, List.filter_filter]
    refine List.filter_congr fun archive _ => ?_
    rw [counted, Bool.and_comm]
    rfl
  rw [meaning, joinedAnswer]
  split
  · rw [groups_joinedRows keyed separate, List.filter_map, archives_of_heads separate]
    rfl
  · rename_i ungrouped
    have unjoined : plan.joins = [] := by
      simpa only [needsGrouping, Bool.not_eq_true, Bool.not_eq_false', List.isEmpty_iff]
        using ungrouped
    -- Without joins nothing can be counted.
    have uncounted : plan.having = [] := by
      refine List.eq_nil_iff_forall_not_mem.mpr fun having member => ?_
      exact having.target.not_reached_nil (unjoined ▸ reached having member)
    have single : archiveRows store [] = fun archive => [Joined.ofArchive archive] := rfl
    rw [joinedRows_eq_flatMap separate, unjoined, uncounted, single, ← List.map_eq_flatMap,
      List.map_map]
    simp only [List.all_nil, List.filter_true]
    exact List.map_id _

end Answer

/-- The statement of a plan, read as joins, groups and counts of distinct values, answers with the
archives that satisfy the conditions of the plan and each number filter by itself, and with each of
them in one row.  These are the rows that a plan selects before they are sorted. -/
theorem joined_counts_are_separate_counts {store : Store} (keyed : store.Keyed)
    (ownSources : (store.sources.map Store.Source.id).Nodup) (query : Query)
    (resolution : Resolution) (request : Search.Request) (options : Search.Options) :
    let plan := ofQuery query resolution request options
    (∀ dialect, plan.fragments dialect = plan.joinedFragments dialect) ∧
      (plan.joinedAnswer store).map Joined.archive = store.archives.filter (fun archive =>
        plan.conditions.all (fun condition => condition.holds store archive) &&
          query.numbers.all (store.meetsNumber archive)) ∧
      ((plan.joinedAnswer store).map fun row => row.archive.id).Nodup ∧
      plan.select store = ((plan.joinedAnswer store).map Joined.archive).mergeSort fun a b =>
        (compareArchives plan.key plan.direction a b).isLE := by
  intro plan
  have answer := archives_joinedAnswer keyed ownSources
    (separate_ofQuery query resolution request options) fun _ member => reached_ofQuery member
  have numbers : plan.holds store = fun archive =>
      plan.conditions.all (fun condition => condition.holds store archive) &&
        query.numbers.all (store.meetsNumber archive) := by
    funext archive
    rw [← all_meetsNumber, holds, ← Bool.and_assoc]
    refine congrArg (· && _) ?_
    -- The conditions on columns are among the conditions of the plan.
    simp only [plan, ofQuery, List.all_append, Bool.and_assoc, Bool.and_self]
  refine ⟨plan.fragments_eq_joinedFragments, numbers ▸ answer, ?_, ?_⟩
  · have ids : (plan.joinedAnswer store).map (fun row => row.archive.id) =
        (store.archives.filter (plan.holds store)).map Archive.id := by
      rw [← answer, List.map_map]
      rfl
    rw [ids]
    exact keyed.archives.sublist (List.filter_sublist.map Archive.id)
  · rw [answer]
    rfl

/-- A store with an archive that has two tags and two sources, and one that has neither. -/
def productStore : Store where
  archives := [
    { id := 1, hash := "g", title := "A Tale", createdAt := "2020-01-01 00:00:00" },
    { id := 2, hash := "h", title := "A Tail", createdAt := "2020-01-01 00:00:00" }]
  tags := [
    { id := 1, scope := "artist", name := "jane" },
    { id := 2, scope := "parody", name := "x" }]
  links := [⟨1, 1, ""⟩, ⟨1, 2, ""⟩]
  sources := [⟨1, 1, "pixiv", none⟩, ⟨2, 1, "fanbox", none⟩]

/-- Two tags and two sources make four rows of one archive, but no count sees more than two, and the
archive without any has a row of its own whose counts are zero. -/
theorem joined_counts_of_productStore :
    let two : Query := { numbers := [⟨.tagCount, .equal, 2⟩, ⟨.sourceCount, .equal, 2⟩,
      ⟨.namespaceCount "artist", .equal, 1⟩, ⟨.namespaceCount "parody", .less, 2⟩] }
    let neither : Query := { numbers := [⟨.tagCount, .less, 1⟩, ⟨.sourceCount, .equal, 0⟩] }
    let plan := fun query => ofQuery query {} {} {}
    productStore.Keyed ∧ (productStore.sources.map Store.Source.id).Nodup ∧
      ((plan two).joinedRows productStore).map (fun row => row.archive.id) = [1, 1, 1, 1, 2] ∧
      ((plan two).joinedAnswer productStore).map Joined.archive = productStore.archives.take 1 ∧
      ((plan neither).joinedAnswer productStore).map Joined.archive =
        productStore.archives.drop 1 := by
  intro two neither plan
  have keyed : productStore.Keyed := ⟨by decide, by decide, by decide, by decide⟩
  have ownSources : (productStore.sources.map Store.Source.id).Nodup := by decide
  refine ⟨keyed, ownSources, by decide +kernel, ?_, ?_⟩
  · rw [(joined_counts_are_separate_counts keyed ownSources two {} {} {}).2.1]
    decide +kernel
  · rw [(joined_counts_are_separate_counts keyed ownSources neither {} {} {}).2.1]
    decide +kernel

end Plan
end Gallery
