import Gallery.Proofs.Plan.Trial
import Gallery.Search.Engine

namespace Gallery

/-!
# Listings

A search is a listing of which one page is shown.  `Engine.listing` is the
search without the page: everything up to the ids in their order.  It looks
neither at the page of the request nor at its limit, so searches that differ in
nothing else show parts of one list.

With all tables present, the tag filters that are resolved in advance are
refused only for a pattern that is too long and would meet some tag.  Otherwise
an archive is among the resolved ones exactly if it carries a tag that matches
one of the filters.
-/

namespace Store

open Query (TagFilter)

/-- The archives that carry a tag that matches one of the filters. -/
def carriersOf (store : Store) (filters : List TagFilter) : List Int64 :=
  ((store.links.filter fun link =>
    (filters.map fun filter => (store.tags.filter filter.matchesTag).map
      Listing.Tag.id).flatten.contains link.tag).map Link.archive).eraseDups

theorem carries_iff (store : Store) (archive : Int64) (wanted : Listing.Tag → Bool) :
    store.carries archive wanted = true ↔
      ∃ link ∈ store.links, link.archive = archive ∧
        ∃ tag ∈ store.tags, tag.id = link.tag ∧ wanted tag = true := by
  simp only [carries, List.any_eq_true, Bool.and_eq_true, decide_eq_true_eq]

theorem mem_carriersOf_iff (store : Store) (filters : List TagFilter) (archive : Int64) :
    archive ∈ store.carriersOf filters ↔
      ∃ filter ∈ filters, store.carries archive filter.matchesTag = true := by
  rw [carriersOf, List.mem_eraseDups, List.mem_map]
  constructor
  · rintro ⟨link, chosen, isArchive⟩
    rcases List.mem_filter.mp chosen with ⟨inLinks, matched⟩
    rcases List.mem_flatten.mp (List.contains_iff_mem.mp matched) with ⟨ids, inIds, inTags⟩
    rcases List.mem_map.mp inIds with ⟨filter, inFilters, rfl⟩
    rcases List.mem_map.mp inTags with ⟨tag, found, isTag⟩
    rcases List.mem_filter.mp found with ⟨member, matchesTag⟩
    exact ⟨filter, inFilters, (store.carries_iff archive _).mpr
      ⟨link, inLinks, isArchive, tag, member, isTag, matchesTag⟩⟩
  · rintro ⟨filter, inFilters, carried⟩
    rcases (store.carries_iff archive _).mp carried with
        ⟨link, inLinks, isArchive, tag, member, isTag, matchesTag⟩
    refine ⟨link, List.mem_filter.mpr ⟨inLinks, List.contains_iff_mem.mpr ?_⟩, isArchive⟩
    refine List.mem_flatten.mpr ⟨_, List.mem_map.mpr ⟨filter, inFilters, rfl⟩, ?_⟩
    exact List.mem_map.mpr ⟨tag, List.mem_filter.mpr ⟨member, matchesTag⟩, isTag⟩

/-- What excluded and optional tag filters are resolved to. -/
def resolutionOf (store : Store) (tags : List TagFilter) : Resolution :=
  let optional := tags.filter fun tag => tag.role = .optional
  {
    excluded := store.carriersOf (tags.filter fun tag => tag.role = .excluded)
    optional := if optional.isEmpty then none else some (store.carriersOf optional) }

end Store

namespace Database

open Query (TagFilter)

/-- Whether a database gives up on a filter: the pattern is too long, and there
is a tag to try it on. -/
def givesUpOn (database : Database) (filter : TagFilter) : Bool :=
  isLongPattern filter.pattern && database.store.tags.any fun tag => filter.reaches tag.scope

variable {database : Database}

theorem matchingTags_of_present (present : database.missing = []) (filter : TagFilter) :
    database.matchingTags filter =
      if database.givesUpOn filter then .error .longPattern
      else .ok ((database.store.tags.filter filter.matchesTag).map Listing.Tag.id) := by
  rw [matchingTags, Plan.refusal?_of_present present]
  rfl

theorem mapM_matchingTags (present : database.missing = []) (filters : List TagFilter) :
    filters.mapM database.matchingTags =
      if filters.any database.givesUpOn then .error .longPattern
      else .ok (filters.map fun filter =>
        (database.store.tags.filter filter.matchesTag).map Listing.Tag.id) := by
  induction filters with
  | nil => rfl
  | cons filter others inductionHypothesis =>
      rw [List.mapM_cons, matchingTags_of_present present, inductionHypothesis, List.any_cons]
      cases database.givesUpOn filter with
      | true => rfl
      | false => cases others.any database.givesUpOn <;> rfl

theorem carriers_of_present (present : database.missing = []) (tags : List Int64) :
    database.carriers tags =
      .ok (((database.store.links.filter fun link => tags.contains link.tag).map
        Store.Link.archive).eraseDups) := by
  rw [carriers, Plan.refusal?_of_present present]
  cases tags with
  | nil =>
      have none_chosen : (database.store.links.filter fun link =>
          ([] : List Int64).contains link.tag) = [] :=
        List.filter_eq_nil_iff.mpr fun _ _ => Bool.false_ne_true
      rw [none_chosen]
      rfl
  | cons tag others => rfl

theorem archivesMatching_of_present (present : database.missing = []) (filters : List TagFilter) :
    database.archivesMatching filters =
      if filters.any database.givesUpOn then .error .longPattern
      else .ok (database.store.carriersOf filters) := by
  rw [archivesMatching, mapM_matchingTags present]
  cases filters.any database.givesUpOn with
  | true => rfl
  | false => exact carriers_of_present present _

end Database

namespace Search

namespace Connection

variable {database : Database}

theorem run_sqlite {α : Type} (statement : Database → Except Refusal α) :
    (Connection.sqlite database).run .sqlite statement =
      match statement database with
      | .ok answer => .ok answer
      | .error refusal => .error (.backend refusal) := rfl

theorem archivesMatching_of_present (present : database.missing = [])
    (filters : List Query.TagFilter) :
    (Connection.sqlite database).archivesMatching filters =
      if filters.any database.givesUpOn then .error (.backend .longPattern)
      else .ok (database.store.carriersOf filters) := by
  rw [archivesMatching, dialect, run_sqlite, Database.archivesMatching_of_present present]
  cases filters with
  | nil =>
      have none_chosen : (database.store.links.filter fun _ => false) = [] :=
        List.filter_eq_nil_iff.mpr fun _ _ => Bool.false_ne_true
      have none_carries : database.store.carriersOf [] = [] := by
        change ((database.store.links.filter fun _ => false).map Store.Link.archive).eraseDups = []
        rw [none_chosen]
        rfl
      rw [none_carries]
      rfl
  | cons filter others =>
      cases (filter :: others).any database.givesUpOn <;> rfl

/-- Tag filters are resolved unless one of them is given up on. -/
theorem resolve_of_present (present : database.missing = []) (tags : List Query.TagFilter) :
    (Connection.sqlite database).resolve tags =
      if (tags.filter fun tag => tag.role = .excluded).any database.givesUpOn ||
          (tags.filter fun tag => tag.role = .optional).any database.givesUpOn then
        .error (.backend .longPattern)
      else .ok (database.store.resolutionOf tags) := by
  simp only [resolve, archivesMatching_of_present present]
  cases (tags.filter fun tag => tag.role = .excluded).any database.givesUpOn <;>
    cases (tags.filter fun tag => tag.role = .optional).any database.givesUpOn <;> rfl

end Connection

namespace Engine

/-- The ids of all matches in their order. -/
def listing (engine : Engine) (request : Request) (options : Options) :
    Except SearchError (List Int64) := do
  if options.allowIds = some [] then return []
  let resolution ← engine.connection.resolve (queryOf request options).tags
  if resolution.optional = some [] then return []
  let rows ← engine.connection.run engine.connection.dialect
    (Plan.ofQuery (queryOf request options) resolution request options).evaluate
  return (arrange engine.connection.dialect request rows).map Prod.fst

end Engine

theorem paginate_nil {α : Type} (page limit : UInt64) : paginate ([] : List α) page limit = [] := by
  rw [paginate, List.drop_nil, List.take_nil, ite_self]

theorem resultOf_nil (request : Request) (options : Options) : resultOf request options [] = {} := by
  rw [resultOf, paginate_nil, ite_self]
  rfl

namespace Engine

/-- A search shows a part of the listing, and fails when the listing does. -/
theorem search_eq_listing (engine : Engine) (request : Request) (options : Options) :
    engine.search request options =
      (engine.listing request options).map (resultOf request options) := by
  simp only [search, listing]
  by_cases nothingAllowed : options.allowIds = some []
  · simp only [if_pos nothingAllowed]
    exact congrArg Except.ok (resultOf_nil request options).symm
  · simp only [if_neg nothingAllowed]
    cases engine.connection.resolve (queryOf request options).tags with
    | error error => rfl
    | ok resolution =>
        by_cases noneCarries : resolution.optional = some []
        · simp only [bind, Except.bind, if_pos noneCarries]
          exact congrArg Except.ok (resultOf_nil request options).symm
        · simp only [bind, Except.bind, if_neg noneCarries]
          cases engine.connection.run engine.connection.dialect
            (Plan.ofQuery (queryOf request options) resolution request options).evaluate <;> rfl

end Engine

end Search
end Gallery
