import Gallery.Proofs.Query.TitleCharacters
import Gallery.Proofs.Search.Loading
import Gallery.Proofs.Search.Roles
import Gallery.Proofs.Service.Deleted

namespace Gallery

open Search (Engine Request Options Result paginate)

/-!
# What the handlers answer

Both handlers load what a search has found, and loading never fails.  What they show
rests on the search: it finds nothing that is deleted, and nothing twice.  So the items
handler always answers, since its search has an empty query.  The listing answers
whenever its search does, and a search is refused only for the size of its statement or
of a pattern.  The pages of a random listing are cut out of one order, which the seed of
any of them determines.
-/

/-! ## What a search finds -/

namespace Search

/-- Whether the statement of a search and all its patterns are small enough for the engine. -/
structure Sized (store : Store) (request : Request) (options : Options) : Prop where
  fits : (planOf store request options).Fits
  tags : ∀ filter ∈ (queryOf request options).tags, isLongPattern filter.pattern = false
  languages : ∀ pattern ∈ (Query.parse request.query).languages, isLongPattern pattern = false
  sources : ∀ pattern ∈ (Query.parse request.query).sources, isLongPattern pattern = false
  urls : ∀ text ∈ (Query.parse request.query).urls, isLongPattern (Plan.urlPattern text) = false

theorem Sized.withinLimits {store : Store} {request : Request} {options : Options}
    (sized : Sized store request options) (free : FullText.NullFree request.query.toList) :
    WithinLimits store request options :=
  { sized with title := Query.keptNullFree_ofChars free }

theorem nodup_paginate {α : Type} {items : List α} (distinct : items.Nodup) (page limit : UInt64) :
    (paginate items page limit).Nodup := by
  rw [paginate]
  split
  · exact distinct
  · exact distinct.sublist ((List.take_sublist _ _).trans (List.drop_sublist _ _))

end Search

/-! ## The items handler -/

namespace Service

section Items

variable {database : Database} {site : Config.Site}

/-- Without a query, ids and a blacklist only the visible and allowed archives are wanted. -/
theorem wants_bare_iff {request : Request} {options : Options} {store : Store}
    {archive : Store.Archive} (noQuery : request.query = "") (noIds : request.ids = none)
    (noSeries : request.series = false) (noBlacklist : options.blacklist = []) :
    Search.Wants request options store archive ↔
      (options.showHidden = false → archive.deletedAt = none) ∧
        ∀ ids, options.allowIds = some ids → archive.id ∈ ids := by
  constructor
  · intro wanted
    exact ⟨wanted.admitted.visible, wanted.admitted.allowed⟩
  · rintro ⟨visible, allowed⟩
    refine ⟨⟨visible, allowed, ?_, ?_, ?_⟩, ?_⟩
    · intro ids listed
      cases noIds.symm.trans listed
    · exact fun inSeries => absurd (noSeries.symm.trans inSeries) Bool.false_ne_true
    · rw [noBlacklist]
      exact List.forall_mem_nil _
    · rw [noQuery, Query.parse_empty]
      exact Query.satisfiedBy_empty

/-- A search for ids is never refused. -/
theorem exists_search_ids (present : database.missing = []) (site : Config.Site)
    (ids : List Int64) : ∃ result, (Engine.mk (.sqlite database) site).search {}
      { allowIds := some ids, skipPagination := true } = .ok result :=
  Search.exists_search present (Search.withinLimits_of_no_query rfl rfl) site

/-- The items handler shows the archives that it is asked for. -/
theorem items_of_present (present : database.missing = []) (keyed : database.store.Keyed)
    (ids : List Int64) :
    items (Engine.mk (.sqlite database) site) ids =
      .success (database.store.shownItems site.listing ids) := by
  rcases exists_search_ids present site ids with ⟨result, answered⟩
  rcases Search.exists_listing_of_search rfl answered with ⟨found, listed, rfl⟩
  have visible : ∀ archive ∈ database.store.archives, archive.id ∈ ids →
      (archive.id ∈ found ↔ archive.deletedAt = none) := by
    intro archive member isAsked
    rw [Search.mem_listing_iff present keyed listed]
    constructor
    · rintro ⟨other, inArchives, same, wanted⟩
      rw [← Store.eq_of_unique_key keyed.archives inArchives member same,
        wanted.admitted.visible rfl]
    · intro undeleted
      refine ⟨archive, member, rfl, (wants_bare_iff rfl rfl rfl rfl).mpr ⟨fun _ => undeleted, ?_⟩⟩
      rintro _ ⟨⟩
      exact isAsked
  have loaded : (Engine.mk (.sqlite database) site).load found
      { order := some ids, curate := true } = .ok (database.store.shownItems site.listing ids) :=
    Engine.load_visible present keyed rfl rfl visible
  simp only [items, answered, loaded]

end Items

/-! ## The listing -/

/-- The page that shows what a search has found. -/
def pageOf (store : Store) (settings : Listing.Settings) (request : Request) (result : Result) :
    Page where
  items := store.shownItems settings result.ids
  total := UInt64.ofNat result.total
  page := request.page
  limit := request.limit
  seed := if request.key = .random then request.seed else none

/-- The seed of parameters, or a fresh one where they have none or an empty one. -/
def seedOr (params : List (String × String)) (freshSeed : String) : String :=
  ((params.lookup "seed").filter fun seed => !seed.isEmpty).getD freshSeed

/-- The number of the page that a parameter asks for. -/
def pageNumber (text : String) : UInt64 :=
  max ((Text.readUInt64 text.toList).getD 1) 1

section Listing

variable {database : Database} {site : Config.Site} {params : List (String × String)}
  {freshSeed : String}

/-- Only a random listing needs a seed, and it keeps the one that is given. -/
theorem seededRequest_eq (params : List (String × String)) (site : Config.Site)
    (freshSeed : String) :
    seededRequest params site freshSeed =
      { Request.ofParams params site with
        seed :=
          if (Request.ofParams params site).key = .random then some (seedOr params freshSeed)
          else (Request.ofParams params site).seed } := by
  have given : seedOr params freshSeed = (Request.ofParams params site).seed.getD freshSeed := rfl
  rw [given, seededRequest]
  generalize Request.ofParams params site = request
  rcases request with ⟨query, key, direction, seed, page, limit, ids, series⟩
  by_cases random : key = .random
  · cases seed <;> simp [random]
  · simp [random]

theorem key_seededRequest :
    (seededRequest params site freshSeed).key = (Request.ofParams params site).key := by
  rw [seededRequest_eq]

theorem seed_seededRequest (random : (seededRequest params site freshSeed).key = .random) :
    (seededRequest params site freshSeed).seed = some (seedOr params freshSeed) := by
  rw [seededRequest_eq] at random ⊢
  exact if_pos random

theorem seedOr_ne_empty (nonempty : freshSeed ≠ "") : seedOr params freshSeed ≠ "" := by
  unfold seedOr
  cases given : (params.lookup "seed").filter fun seed => !seed.isEmpty with
  | none => exact nonempty
  | some seed =>
      rintro rfl
      exact absurd (Option.filter_eq_some_iff.mp given).2 (by decide)

/-- The seed of a random page leads to the same listing, whichever page is asked for. -/
theorem seededRequest_again {seed : String} (nonempty : seed ≠ "")
    (random : (Request.ofParams params site).key = .random)
    (seeded : seedOr params freshSeed = seed) (text otherSeed : String) :
    seededRequest (("seed", seed) :: ("page", text) :: params) site otherSeed =
      { seededRequest params site freshSeed with page := pageNumber text } := by
  have given : (some seed).filter (fun seed => !seed.isEmpty) = some seed := by
    rw [Option.filter_some, if_pos]
    rw [Bool.not_eq_true', ← Bool.not_eq_true, String.isEmpty_iff]
    exact nonempty
  have asked : Request.ofParams (("seed", seed) :: ("page", text) :: params) site =
      { Request.ofParams params site with
        seed := (some seed).filter fun seed => !seed.isEmpty
        page := pageNumber text } := rfl
  have again : seedOr (("seed", seed) :: ("page", text) :: params) otherSeed = seed := by
    change ((some seed).filter fun seed => !seed.isEmpty).getD otherSeed = seed
    rw [given]
    rfl
  rw [seededRequest_eq, seededRequest_eq, asked, again, seeded]
  simp only [random, if_true]

/-- The query of parameters without null characters has none. -/
theorem nullFree_query (free : ∀ param ∈ params, FullText.NullFree param.2.toList) :
    FullText.NullFree (seededRequest params site freshSeed).query.toList := by
  rw [seededRequest_eq]
  change FullText.NullFree ((params.lookup "q").getD "").toList
  cases found : params.lookup "q" with
  | none => exact List.not_mem_nil
  | some query =>
      rcases List.lookup_eq_some_iff.mp found with ⟨before, after, rfl, _⟩
      exact free ("q", query) (List.mem_append_right _ List.mem_cons_self)

/-! ### Its pages -/

/-- A search shows a page of an order of what it wants, each once. -/
theorem exists_order_of_search {request : Request} {result : Result}
    (present : database.missing = []) (keyed : database.store.Keyed)
    (answered : (Engine.mk (.sqlite database) site).search request {} = .ok result) :
    ∃ order, order.Nodup ∧
      (∀ id, id ∈ order ↔ ∃ archive ∈ database.store.archives, archive.id = id ∧
        Search.Wants request {} database.store archive) ∧
      ∀ page, (Engine.mk (.sqlite database) site).search { request with page := page } {} =
        .ok ⟨paginate order page request.limit, order.length⟩ := by
  rw [Engine.search_eq_listing] at answered
  cases listed : (Engine.mk (.sqlite database) site).listing request {} with
  | error error =>
      rw [listed] at answered
      cases answered
  | ok order =>
      refine ⟨order, Search.listing_nodup present keyed listed,
        Search.mem_listing_iff present keyed listed, fun page => ?_⟩
      -- The listing does not look at the page.
      have same : (Engine.mk (.sqlite database) site).listing { request with page := page } {} =
          .ok order := listed
      rw [Engine.search_eq_listing, same]
      rfl

/-- What a search shows is there, not deleted, and shown once. -/
theorem shown_of_search {request : Request} {result : Result} (present : database.missing = [])
    (keyed : database.store.Keyed)
    (answered : (Engine.mk (.sqlite database) site).search request {} = .ok result) :
    result.ids.Nodup ∧ ∀ id ∈ result.ids, ∃ archive ∈ database.store.archives,
      archive.id = id ∧ archive.deletedAt = none := by
  rcases exists_order_of_search present keyed answered with ⟨order, distinct, wanted, pages⟩
  have isPage := (pages request.page).symm.trans answered
  rw [Except.ok.injEq] at isPage
  subst isPage
  refine ⟨Search.nodup_paginate distinct _ _, fun id member => ?_⟩
  rcases (wanted id).mp (Search.mem_of_mem_paginate member) with ⟨archive, inArchives, own, wants⟩
  exact ⟨archive, inArchives, own, wants.admitted.visible rfl⟩

/-- The listing answers with what its search has found. -/
theorem library_of_search {result : Result} (present : database.missing = [])
    (keyed : database.store.Keyed)
    (answered : (Engine.mk (.sqlite database) site).search
      (seededRequest params site freshSeed) {} = .ok result) :
    library (Engine.mk (.sqlite database) site) params freshSeed =
      .success
        (pageOf database.store site.listing (seededRequest params site freshSeed) result) := by
  have visible : ∀ archive ∈ database.store.archives, archive.id ∈ result.ids →
      (archive.id ∈ result.ids ↔ archive.deletedAt = none) := by
    intro archive member isShown
    refine iff_of_true isShown ?_
    rcases (shown_of_search present keyed answered).2 archive.id isShown with
      ⟨other, inArchives, same, undeleted⟩
    rw [← Store.eq_of_unique_key keyed.archives inArchives member same, undeleted]
  have loaded : (Engine.mk (.sqlite database) site).load result.ids { curate := true } =
      .ok (database.store.shownItems site.listing result.ids) :=
    Engine.load_visible present keyed rfl rfl visible
  simp only [library, answered, loaded]
  rfl

/-- A page names its seed if and only if the listing is random. -/
theorem seed_pageOf (store : Store) (settings : Listing.Settings) (result : Result) :
    (pageOf store settings (seededRequest params site freshSeed) result).seed =
      if (seededRequest params site freshSeed).key = .random then some (seedOr params freshSeed)
      else none := by
  by_cases random : (seededRequest params site freshSeed).key = .random
  · rw [if_pos random, ← seed_seededRequest random]
    exact if_pos random
  · rw [if_neg random]
    exact if_neg random

/-- The seed of a random page leads to all pages of the order that it is a page of. -/
theorem pages_of_seed {result : Result} (present : database.missing = [])
    (keyed : database.store.Keyed)
    (random : (seededRequest params site freshSeed).key = .random) (nonempty : freshSeed ≠ "")
    (answered : (Engine.mk (.sqlite database) site).search
      (seededRequest params site freshSeed) {} = .ok result) :
    let request := seededRequest params site freshSeed
    ∃ order, order.Nodup ∧
      (∀ id, id ∈ order ↔ ∃ archive ∈ database.store.archives, archive.id = id ∧
        Search.Wants request {} database.store archive) ∧
      result = ⟨paginate order request.page request.limit, order.length⟩ ∧
      ∀ text otherSeed,
        library (Engine.mk (.sqlite database) site)
            (("seed", seedOr params freshSeed) :: ("page", text) :: params) otherSeed =
          .success (pageOf database.store site.listing { request with page := pageNumber text }
            ⟨paginate order (pageNumber text) request.limit, order.length⟩) := by
  intro request
  rcases exists_order_of_search present keyed answered with ⟨order, once, wanted, pages⟩
  refine ⟨order, once, wanted, ?_, fun text otherSeed => ?_⟩
  · exact Except.ok.inj (answered.symm.trans (pages request.page))
  · have again := seededRequest_again (seedOr_ne_empty nonempty)
      (key_seededRequest.symm.trans random) rfl text otherSeed
    have paged := pages (pageNumber text)
    rw [← again] at paged
    rw [library_of_search present keyed paged, again]

end Listing

/-! ## Both handlers -/

/-- Both handlers answer with what is there and not deleted.  The items handler always does.  The
listing answers with the page that its search finds, or that the search has failed; and a search of
parameters without null characters does not fail unless its statement or a pattern is too large.  A
random page names its seed, which leads to the other pages of the same order. -/
theorem handlers_answer_as_searched {database : Database} (site : Config.Site)
    (present : database.missing = []) (keyed : database.store.Keyed) :
    let engine := Engine.mk (.sqlite database) site
    (∀ ids, items engine ids = .success (database.store.shownItems site.listing ids)) ∧
    ∀ params freshSeed,
      let request := seededRequest params site freshSeed
      ((∀ param ∈ params, FullText.NullFree param.2.toList) →
        Search.Sized database.store request {} → ∃ result, engine.search request {} = .ok result) ∧
      (∀ error, engine.search request {} = .error error →
        library engine params freshSeed = .error searchFailed) ∧
      ∀ result, engine.search request {} = .ok result →
        let page := pageOf database.store site.listing request result
        library engine params freshSeed = .success page ∧
          page.items.map Listing.Item.id = result.ids ∧
          (∀ item ∈ page.items, item.deleted = false) ∧
          (result.total < UInt64.size → page.total.toNat = result.total) ∧
          page.seed = (if request.key = .random then some (seedOr params freshSeed) else none) ∧
          (request.key = .random → freshSeed ≠ "" → ∃ order, order.Nodup ∧
            (∀ id, id ∈ order ↔ ∃ archive ∈ database.store.archives, archive.id = id ∧
              Search.Wants request {} database.store archive) ∧
            result = ⟨paginate order request.page request.limit, order.length⟩ ∧
            ∀ text otherSeed,
              library engine (("seed", seedOr params freshSeed) :: ("page", text) :: params)
                  otherSeed =
                .success (pageOf database.store site.listing
                  { request with page := pageNumber text }
                  ⟨paginate order (pageNumber text) request.limit, order.length⟩)) := by
  intro engine
  refine ⟨items_of_present present keyed, fun params freshSeed => ?_⟩
  intro request
  refine ⟨fun free sized => ?_, fun error refused => library_of_error refused,
    fun result answered => ?_⟩
  · exact Search.exists_search present (sized.withinLimits (nullFree_query free)) site
  · rcases shown_of_search present keyed answered with ⟨distinct, there⟩
    exact ⟨library_of_search present keyed answered, Store.ids_shownItems keyed distinct there,
      fun item => Store.undeleted_of_mem_shownItems keyed, UInt64.toNat_ofNat_of_lt',
      seed_pageOf _ _ _, fun random nonempty => pages_of_seed present keyed random nonempty answered⟩

section Example

open Search (countingQuery someLetters otherLetters)

/-- In the gallery of which one archive is deleted, the other one is shown, and a random listing
of it goes on with the seed of its first page. -/
theorem oneOfTwoDeleted_answers :
    oneOfTwoDeleted.missing = [] ∧ oneOfTwoDeleted.store.Keyed ∧
      items (Engine.mk (.sqlite oneOfTwoDeleted) {}) [2, 1, 2, 7] =
        .success [{
          id := 2, hash := "g", title := "a  tale", pages := 0, thumbnail := 1, deleted := false,
          tags := [] }] ∧
      ∃ result order,
        (Engine.mk (.sqlite oneOfTwoDeleted) {}).search
          { key := .random, seed := some "seed" } {} = .ok result ∧
        library (Engine.mk (.sqlite oneOfTwoDeleted) {}) [("sort", "random")] "seed" =
          .success
            (pageOf oneOfTwoDeleted.store {} { key := .random, seed := some "seed" } result) ∧
        2 ∈ order ∧ result = ⟨paginate order 1 24, order.length⟩ ∧
        library (Engine.mk (.sqlite oneOfTwoDeleted) {})
            [("seed", "seed"), ("page", "2"), ("sort", "random")] "other" =
          .success (pageOf oneOfTwoDeleted.store {}
            { key := .random, seed := some "seed", page := 2 }
            ⟨paginate order 2 24, order.length⟩) := by
  have present : oneOfTwoDeleted.missing = [] := rfl
  have keyed := reachable_oneOfTwoDeleted.keyed
  rcases handlers_answer_as_searched {} present keyed with ⟨loaded, listings⟩
  have request : seededRequest [("sort", "random")] {} "seed" =
      { key := .random, seed := some "seed" } := by decide +kernel
  have sized : Search.Sized oneOfTwoDeleted.store { key := .random, seed := some "seed" } {} := {
    Search.withinLimits_of_no_query rfl rfl with }
  rcases listings [("sort", "random")] "seed" with ⟨answers, _, shows⟩
  rw [request] at answers shows
  rcases answers (by decide +kernel) sized with ⟨result, answered⟩
  rcases shows result answered with ⟨first, _, _, _, _, walks⟩
  rcases walks rfl (by decide) with ⟨order, _, wanted, isPage, pages⟩
  have isWanted : Search.Wants { key := .random, seed := some "seed" } {} oneOfTwoDeleted.store
      { id := 2, hash := "g", title := "a  tale", createdAt := "2019-01-01 00:00:00" } := by
    refine (wants_bare_iff rfl rfl rfl rfl).mpr ⟨fun _ => rfl, ?_⟩
    rintro _ ⟨⟩
  have second := pages "2" "other"
  refine ⟨present, keyed, ?_, result, order, answered, first, ?_, isPage, second⟩
  · rw [loaded]
    decide +kernel
  · exact (wanted 2).mpr ⟨_, by decide +kernel, rfl, isWanted⟩

/-- The counts of sixty-three namespaces are refused, also where there is nothing to find, and then
the listing does not answer with an empty page. -/
theorem library_fails_beyond_table_limit :
    Database.empty.migrate.missing = [] ∧ Database.empty.migrate.store.Keyed ∧
      FullText.NullFree (countingQuery (someLetters ++ otherLetters)).toList ∧
      library (Engine.mk (.sqlite Database.empty.migrate) {})
          [("q", countingQuery (someLetters ++ otherLetters))] "abcdefghijklmnop" =
        { code := 500, message := searchFailed, data := none } := by
  have read : Query.parse (countingQuery (someLetters ++ otherLetters)) =
      { numbers := Search.countingFilters (someLetters ++ otherLetters) } :=
    Search.parse_countingQuery (by decide) fun _ member => member
  have refused : (Engine.mk (.sqlite Database.empty.migrate) {}).search
      (seededRequest [("q", countingQuery (someLetters ++ otherLetters))] {} "abcdefghijklmnop")
        {} = .error (.backend .tooManyTables) :=
    Search.Engine.search_of_many_counts rfl {} (by decide) rfl read (by decide)
  have free : FullText.NullFree (countingQuery (someLetters ++ otherLetters)).toList := by
    rw [countingQuery, String.toList_ofList]
    decide
  exact ⟨rfl, Database.Reachable.fresh.keyed, free, library_of_error refused⟩

end Example

end Service
end Gallery
