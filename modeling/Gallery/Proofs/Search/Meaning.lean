import Gallery.Proofs.Plan.Counts
import Gallery.Proofs.Plan.Demand
import Gallery.Proofs.Search.Order

namespace Gallery

/-!
# What a search finds

The demands of a search are stated here without a plan.  Those of its query
concern the tags of an archive, its texts, its sources and its numbers.  Those
of the request and of the caller concern the archive itself, and the blacklist.

A search reaches its answer on two ways: excluded and optional tags are resolved
to lists of archives before there is a plan, and two kinds of empty lists end the
search without one.  The theorems say that on every way an answer has exactly
the archives that meet the demands.
-/

/-! ## The demands -/

/-- What a query demands of an archive. -/
structure Query.SatisfiedBy (query : Query) (store : Store) (archive : Store.Archive) : Prop where
  required : ∀ filter ∈ query.tags, filter.role = .required →
    store.carries archive.id (Store.carriesMatch filter.scope filter.pattern) = true
  excluded : ∀ filter ∈ query.tags, filter.role = .excluded →
    store.carries archive.id filter.matchesTag = false
  optional : (∃ filter ∈ query.tags, filter.role = .optional) →
    ∃ filter ∈ query.tags, filter.role = .optional ∧
      store.carries archive.id filter.matchesTag = true
  title : store.meetsTitle archive.id query.title = true
  languages : ∀ pattern ∈ query.languages, Store.likeOption pattern archive.language = true
  sources : query.sources ≠ [] →
    ∃ pattern ∈ query.sources, ∃ source ∈ store.sourcesOf archive.id,
      Text.like pattern source.name = true
  urls : query.urls ≠ [] →
    ∃ text ∈ query.urls, ∃ source ∈ store.sourcesOf archive.id,
      Store.likeOption (Plan.urlPattern text) source.url = true
  numbers : ∀ filter ∈ query.numbers, store.meetsNumber archive filter = true

namespace Search

/-- The request with another query. -/
def Request.withQuery (request : Request) (query : String) : Request :=
  { request with query := query }

/-- What a request and its caller demand of an archive, whatever the query is. -/
structure Admits (request : Request) (options : Options) (store : Store)
    (archive : Store.Archive) : Prop where
  visible : options.showHidden = false → archive.deletedAt = none
  allowed : ∀ ids, options.allowIds = some ids → archive.id ∈ ids
  listed : ∀ ids, request.ids = some ids → archive.id ∈ ids
  inSeries : request.series = true → ∃ member ∈ store.memberships, member.archive = archive.id
  unlisted : ∀ entry ∈ options.blacklist, ∀ filter,
    Query.TagFilter.ofBlacklistEntry? entry = some filter →
      store.carries archive.id filter.matchesTag = false

/-- What a search demands of an archive. -/
structure Wants (request : Request) (options : Options) (store : Store)
    (archive : Store.Archive) : Prop where
  admitted : Admits request options store archive
  satisfied : (Query.parse request.query).SatisfiedBy store archive

end Search

namespace Plan

open Search (Request Options)
open Store (Archive)

/-! ## Conditions, group by group -/

/-- The condition of title words, if there are any. -/
def titleConditions (words : Query.TitleWords) : List Condition :=
  if words.isEmpty then [] else [.fullText words]

section Groups

variable {store : Store} {archive : Archive}

private theorem all_toList_idIn {ids : Option (List Int64)} :
    ((ids.map Condition.idIn).toList.all fun condition => condition.demands store archive) = true ↔
      ∀ wanted, ids = some wanted → archive.id ∈ wanted := by
  cases ids with
  | none => simp only [Option.map_none, Option.toList_none, List.all_nil, reduceCtorEq,
      false_implies, implies_true]
  | some ids =>
      simp only [Option.map_some, Option.toList_some, List.all_cons, List.all_nil, Bool.and_true,
        Option.some.injEq, forall_eq', Condition.demands, Condition.holds, List.contains_iff_mem]

theorem all_requestConditions {request : Request} {options : Options} :
    ((requestConditions request options).all fun condition =>
        condition.demands store archive) = true ↔
      (options.showHidden = false → archive.deletedAt = none) ∧
      (∀ ids, options.allowIds = some ids → archive.id ∈ ids) ∧
      (∀ ids, request.ids = some ids → archive.id ∈ ids) ∧
      (request.series = true → ∃ member ∈ store.memberships, member.archive = archive.id) := by
  rw [requestConditions, List.all_append, List.all_append, List.all_append, Bool.and_eq_true,
    Bool.and_eq_true, Bool.and_eq_true, all_toList_idIn, all_toList_idIn, and_assoc, and_assoc]
  refine and_congr ?_ (and_congr_right' (and_congr_right' ?_))
  · cases options.showHidden <;>
      simp [Condition.demands, Condition.holds, Option.isNone_iff_eq_none]
  · cases request.series <;>
      simp [Condition.demands, Condition.holds, List.any_eq_true]

/-- Excluded tags leave out what they are resolved to. -/
private theorem all_excludedTags (tags : List Query.TagFilter) :
    ((unlessEmpty (store.resolutionOf tags).excluded .idNotIn).all
        fun condition => condition.demands store archive) = true ↔
      ∀ filter ∈ tags, filter.role = .excluded →
        store.carries archive.id filter.matchesTag = false := by
  have outside : (unlessEmpty (store.resolutionOf tags).excluded .idNotIn).all
      (fun condition => condition.demands store archive) = true ↔
      archive.id ∉ (store.resolutionOf tags).excluded := by
    cases (store.resolutionOf tags).excluded with
    | nil => simp only [unlessEmpty, List.isEmpty_nil, if_true, List.all_nil, List.not_mem_nil,
        not_false_eq_true]
    | cons first others =>
        simp [unlessEmpty, Condition.demands, Condition.holds]
  rw [outside, Store.resolutionOf, Store.mem_carriersOf_iff]
  simp only [List.mem_filter, decide_eq_true_eq, not_exists, not_and, and_imp, Bool.not_eq_true]

/-- Optional tags ask for what they are resolved to, if there are any. -/
private theorem all_optionalTags (tags : List Query.TagFilter) :
    (∀ wanted, (store.resolutionOf tags).optional = some wanted → archive.id ∈ wanted) ↔
      ((∃ filter ∈ tags, filter.role = .optional) →
        ∃ filter ∈ tags, filter.role = .optional ∧
          store.carries archive.id filter.matchesTag = true) := by
  rw [Store.resolutionOf]
  by_cases none_optional : (tags.filter fun tag => tag.role = .optional).isEmpty = true
  · have empty := List.filter_eq_nil_iff.mp (List.isEmpty_iff.mp none_optional)
    simp only [if_pos none_optional, reduceCtorEq, false_implies, implies_true, true_iff]
    rintro ⟨filter, member, isOptional⟩
    exact absurd (decide_eq_true isOptional) (empty filter member)
  · have some_optional : ∃ filter ∈ tags, filter.role = .optional := by
      have nonempty : tags.filter (fun tag => tag.role = .optional) ≠ [] := by
        intro empty
        exact none_optional (List.isEmpty_iff.mpr empty)
      rcases List.exists_mem_of_ne_nil _ nonempty with ⟨filter, member⟩
      rcases List.mem_filter.mp member with ⟨inTags, isOptional⟩
      exact ⟨filter, inTags, of_decide_eq_true isOptional⟩
    simp only [if_neg none_optional, Option.some.injEq, forall_eq', Store.mem_carriersOf_iff,
      List.mem_filter, decide_eq_true_eq, and_assoc]
    constructor
    · intro found _
      exact found
    · intro found
      exact found some_optional

theorem all_tagConditions {query : Query} :
    ((tagConditions query (store.resolutionOf query.tags)).all fun condition =>
        condition.demands store archive) = true ↔
      (∀ filter ∈ query.tags, filter.role = .required →
        store.carries archive.id (Store.carriesMatch filter.scope filter.pattern) = true) ∧
      (∀ filter ∈ query.tags, filter.role = .excluded →
        store.carries archive.id filter.matchesTag = false) ∧
      ((∃ filter ∈ query.tags, filter.role = .optional) →
        ∃ filter ∈ query.tags, filter.role = .optional ∧
          store.carries archive.id filter.matchesTag = true) := by
  rw [tagConditions, List.all_append, List.all_append, Bool.and_eq_true, Bool.and_eq_true,
    all_toList_idIn, all_excludedTags, all_optionalTags, and_assoc]
  apply and_congr_left'
  simp only [List.all_map, List.all_eq_true, List.mem_filter, decide_eq_true_eq, and_imp]
  rfl

/-- A condition on any of several texts is left out where there are none. -/
private theorem all_unlessEmpty_any {condition : List String → Condition} {meets : String → Prop}
    (means : ∀ texts, (condition texts).demands store archive = true ↔ ∃ text ∈ texts, meets text)
    (texts : List String) :
    ((unlessEmpty texts condition).all fun condition => condition.demands store archive) = true ↔
      (texts ≠ [] → ∃ text ∈ texts, meets text) := by
  cases texts with
  | nil => exact iff_of_true rfl fun impossible => absurd rfl impossible
  | cons first others =>
      rw [unlessEmpty, List.isEmpty_cons, if_neg Bool.false_ne_true, List.all_cons, List.all_nil,
        Bool.and_true, means]
      simp only [ne_eq, reduceCtorEq, not_false_eq_true, true_implies]

theorem all_textConditions {query : Query} :
    ((textConditions query).all fun condition => condition.demands store archive) = true ↔
      store.meetsTitle archive.id query.title = true ∧
      (∀ pattern ∈ query.languages, Store.likeOption pattern archive.language = true) ∧
      (query.sources ≠ [] → ∃ pattern ∈ query.sources, ∃ source ∈ store.sourcesOf archive.id,
        Text.like pattern source.name = true) ∧
      (query.urls ≠ [] → ∃ text ∈ query.urls, ∃ source ∈ store.sourcesOf archive.id,
        Store.likeOption (urlPattern text) source.url = true) := by
  rw [textConditions, List.all_append, List.all_append, List.all_append, Bool.and_eq_true,
    Bool.and_eq_true, Bool.and_eq_true, and_assoc, and_assoc]
  refine and_congr ?_ (and_congr ?_ (and_congr (all_unlessEmpty_any ?_ _)
    (all_unlessEmpty_any ?_ _)))
  · by_cases wordless : query.title.isEmpty = true
    · rw [if_pos wordless, store.meetsTitle_of_isEmpty archive.id wordless]
      exact iff_of_true rfl rfl
    · rw [if_neg wordless, List.all_cons, List.all_nil, Bool.and_true]
      rfl
  · simp only [List.all_map, List.all_eq_true]
    rfl
  · intro patterns
    simp only [Condition.demands, Condition.holds, List.any_eq_true]
  · intro texts
    simp only [Condition.demands, Condition.holds, List.any_eq_true]

/-- Comparisons of columns demand what they hold. -/
theorem all_numberConditions (filters : List Query.NumberFilter) :
    ((filters.filterMap numberCondition?).all fun condition => condition.demands store archive) =
      (filters.filterMap numberCondition?).all fun condition => condition.holds store archive := by
  induction filters with
  | nil => rfl
  | cons filter others inductionHypothesis =>
      rcases filter with ⟨subject, comparison, value⟩
      cases subject with
      | pages | size => exact congrArg (_ && ·) inductionHypothesis
      | tagCount | sourceCount | namespaceCount _ => exact inductionHypothesis

end Groups

end Plan

namespace Search

open Query (TagFilter)
open Store (Archive)

/-! ## Whole plans -/

/-- What the tags of a search are resolved to in a store. -/
def resolved (store : Store) (request : Request) (options : Options) : Resolution :=
  store.resolutionOf (queryOf request options).tags

/-- The plan of a search whose tags are resolved in the store that it is for. -/
def planOf (store : Store) (request : Request) (options : Options) : Plan :=
  Plan.ofQuery (queryOf request options) (resolved store request options) request options

theorem role_of_blacklistEntry {entry : String} {filter : TagFilter}
    (read : TagFilter.ofBlacklistEntry? entry = some filter) : filter.role = .excluded := by
  simp only [TagFilter.ofBlacklistEntry?, Option.ite_none_left_eq_some, Option.some.injEq] at read
  rw [← read.2]

theorem mem_queryOf_tags {request : Request} {options : Options} {filter : TagFilter} :
    filter ∈ (queryOf request options).tags ↔
      filter ∈ (Query.parse request.query).tags ∨
        ∃ entry ∈ options.blacklist, TagFilter.ofBlacklistEntry? entry = some filter := by
  rw [queryOf, List.mem_append, List.mem_filterMap]

/-- A blacklist adds excluded tags and nothing else. -/
theorem mem_queryOf_tags_of_role {request : Request} {options : Options} {filter : TagFilter}
    (other : filter.role ≠ .excluded) :
    filter ∈ (queryOf request options).tags ↔ filter ∈ (Query.parse request.query).tags := by
  rw [mem_queryOf_tags]
  refine ⟨fun either => either.elim id ?_, Or.inl⟩
  rintro ⟨entry, _, read⟩
  exact absurd (role_of_blacklistEntry read) other

/-- A blacklist adds no tags in other roles. -/
theorem filter_role_queryOf (request : Request) (options : Options) {role : Query.Role}
    (other : role ≠ .excluded) :
    (queryOf request options).tags.filter (·.role = role) =
      (Query.parse request.query).tags.filter (·.role = role) := by
  have none_listed : (options.blacklist.filterMap TagFilter.ofBlacklistEntry?).filter
      (·.role = role) = [] := by
    apply List.filter_eq_nil_iff.mpr
    intro filter member isRole
    rcases List.mem_filterMap.mp member with ⟨entry, _, read⟩
    exact other ((of_decide_eq_true isRole).symm.trans (role_of_blacklistEntry read))
  rw [queryOf, List.filter_append, none_listed, List.append_nil]

/-- The conditions of a plan, read off the query alone where the blacklist has no part. -/
theorem conditions_planOf (store : Store) (request : Request) (options : Options) :
    (planOf store request options).conditions =
      Plan.requestConditions request options ++
        (((Query.parse request.query).tags.filter (·.role = .required)).map
            (fun tag => .hasTag tag.scope tag.pattern) ++
          Plan.unlessEmpty (resolved store request options).excluded .idNotIn ++
          ((resolved store request options).optional.map .idIn).toList) ++
        (Plan.titleConditions (Query.parse request.query).title ++
          (Query.parse request.query).languages.map .language ++
          Plan.unlessEmpty (Query.parse request.query).sources .anySourceName ++
          Plan.unlessEmpty (Query.parse request.query).urls .anySourceUrl) ++
        (Query.parse request.query).numbers.filterMap Plan.numberCondition? := by
  rw [← filter_role_queryOf request options (show Query.Role.required ≠ .excluded by decide)]
  rfl

/-- Where a condition of a plan comes from. -/
inductive Origin (store : Store) (request : Request) (options : Options) : Plan.Condition → Prop
  | visible : Origin store request options .visible
  | inSeries : Origin store request options .inSeries
  | ids {ids : List Int64}
      (given : options.allowIds = some ids ∨ request.ids = some ids ∨
        (resolved store request options).optional = some ids) :
      Origin store request options (.idIn ids)
  | required {filter : TagFilter} (parsed : filter ∈ (Query.parse request.query).tags) :
      Origin store request options (.hasTag filter.scope filter.pattern)
  | excluded : Origin store request options (.idNotIn (resolved store request options).excluded)
  | title : Origin store request options (.fullText (Query.parse request.query).title)
  | language {pattern : String} (parsed : pattern ∈ (Query.parse request.query).languages) :
      Origin store request options (.language pattern)
  | sources : Origin store request options (.anySourceName (Query.parse request.query).sources)
  | urls : Origin store request options (.anySourceUrl (Query.parse request.query).urls)
  | number (column : Plan.Column) (comparison : Comparison) (value : Int64) :
      Origin store request options (.compare column comparison value)

/-- Every condition of a plan comes from somewhere. -/
theorem origin_of_mem {store : Store} {request : Request} {options : Options}
    {condition : Plan.Condition} (member : condition ∈ (planOf store request options).conditions) :
    Origin store request options condition := by
  rw [conditions_planOf] at member
  rcases List.mem_append.mp member with member | inNumbers
  · rcases List.mem_append.mp member with member | inTexts
    · rcases List.mem_append.mp member with inRequest | inTags
      · simp only [Plan.requestConditions, List.mem_append, List.mem_ite_nil_left,
          List.mem_ite_nil_right, List.mem_singleton, Option.mem_toList,
          Option.map_eq_some_iff] at inRequest
        rcases inRequest with ((⟨_, rfl⟩ | ⟨ids, given, rfl⟩) | ⟨ids, given, rfl⟩) | ⟨_, rfl⟩
        · exact .visible
        · exact .ids (Or.inl given)
        · exact .ids (Or.inr (Or.inl given))
        · exact .inSeries
      · simp only [Plan.unlessEmpty, List.mem_append, List.mem_map, List.mem_ite_nil_left,
          List.mem_singleton, Option.mem_toList, Option.map_eq_some_iff] at inTags
        rcases inTags with (⟨filter, chosen, rfl⟩ | ⟨_, rfl⟩) | ⟨ids, given, rfl⟩
        · exact .required (List.mem_filter.mp chosen).1
        · exact .excluded
        · exact .ids (Or.inr (Or.inr given))
    · simp only [Plan.titleConditions, Plan.unlessEmpty, List.mem_append, List.mem_map,
        List.mem_ite_nil_left, List.mem_singleton] at inTexts
      rcases inTexts with ((⟨_, rfl⟩ | ⟨pattern, parsed, rfl⟩) | ⟨_, rfl⟩) | ⟨_, rfl⟩
      · exact .title
      · exact .language parsed
      · exact .sources
      · exact .urls
  · rcases List.mem_filterMap.mp inNumbers with ⟨filter, _, compiled⟩
    rw [Plan.numberCondition?] at compiled
    split at compiled
    · exact Option.some.inj compiled ▸ .number _ _ _
    · exact Option.some.inj compiled ▸ .number _ _ _
    · cases compiled

/-- No row is tried exactly if some list of ids is given and empty. -/
theorem selectsNothing_planOf_iff {store : Store} {request : Request} {options : Options} :
    (planOf store request options).selectsNothing = true ↔
      options.allowIds = some [] ∨ request.ids = some [] ∨
        (resolved store request options).optional = some [] := by
  rw [Plan.selectsNothing, List.contains_iff_mem]
  constructor
  · intro member
    cases origin_of_mem member with
    | ids given => exact given
  · intro given
    rw [conditions_planOf, Plan.requestConditions]
    rcases given with given | given | given <;> simp [given]

/-- The demands of a plan are those of the search that it is for. -/
theorem demands_planOf_iff (store : Store) (request : Request) (options : Options)
    (archive : Archive) :
    (planOf store request options).demands store archive = true ↔
      Wants request options store archive := by
  have numbers := Plan.all_meetsNumber store archive (Query.parse request.query).numbers
  have grouped : (planOf store request options).demands store archive = true ↔
      (((Plan.requestConditions request options).all fun condition =>
          condition.demands store archive) = true ∧
        ((Plan.tagConditions (queryOf request options)
          (store.resolutionOf (queryOf request options).tags)).all fun condition =>
            condition.demands store archive) = true ∧
        ((Plan.textConditions (queryOf request options)).all fun condition =>
          condition.demands store archive) = true) ∧
      (Query.parse request.query).numbers.all (store.meetsNumber archive) = true := by
    rw [← numbers, ← Plan.all_numberConditions]
    simp only [Plan.demands, planOf, Plan.ofQuery, List.all_append, Bool.and_eq_true, and_assoc]
    rfl
  rw [grouped, Plan.all_requestConditions, Plan.all_tagConditions, Plan.all_textConditions,
    List.all_eq_true]
  have required : Query.Role.required ≠ .excluded := by decide
  have optional : Query.Role.optional ≠ .excluded := by decide
  constructor
  · rintro ⟨⟨⟨visible, allowed, listed, inSeries⟩, ⟨carried, uncarried, someCarried⟩,
      title, languages, sources, urls⟩, counted⟩
    refine ⟨⟨visible, allowed, listed, inSeries, fun entry member filter read => ?_⟩,
      ⟨fun filter member role => ?_, fun filter member role => ?_, ?_, title, languages, sources,
        urls, counted⟩⟩
    · exact uncarried filter (mem_queryOf_tags.mpr (Or.inr ⟨entry, member, read⟩))
        (role_of_blacklistEntry read)
    · exact carried filter (mem_queryOf_tags.mpr (Or.inl member)) role
    · exact uncarried filter (mem_queryOf_tags.mpr (Or.inl member)) role
    · rintro ⟨filter, member, role⟩
      rcases someCarried ⟨filter, mem_queryOf_tags.mpr (Or.inl member), role⟩ with
          ⟨other, inTags, isOptional, carries⟩
      exact ⟨other, (mem_queryOf_tags_of_role (isOptional ▸ optional)).mp inTags, isOptional,
        carries⟩
  · rintro ⟨⟨visible, allowed, listed, inSeries, unlisted⟩, satisfied⟩
    refine ⟨⟨⟨visible, allowed, listed, inSeries⟩, ⟨fun filter member role => ?_,
      fun filter member role => ?_, ?_⟩, satisfied.title, satisfied.languages, satisfied.sources,
      satisfied.urls⟩, satisfied.numbers⟩
    · exact satisfied.required filter ((mem_queryOf_tags_of_role (role ▸ required)).mp member) role
    · rcases mem_queryOf_tags.mp member with parsed | ⟨entry, inBlacklist, read⟩
      · exact satisfied.excluded filter parsed role
      · exact unlisted entry inBlacklist filter read
    · rintro ⟨filter, member, role⟩
      rcases satisfied.optional
          ⟨filter, (mem_queryOf_tags_of_role (role ▸ optional)).mp member, role⟩ with
          ⟨other, parsed, isOptional, carries⟩
      exact ⟨other, mem_queryOf_tags.mpr (Or.inl parsed), isOptional, carries⟩

end Search
end Gallery
