import Gallery.Proofs.Search.Counting
import Gallery.Proofs.Search.Deleted
import Gallery.Proofs.Search.Ranking
import Gallery.Service.Handlers

namespace Gallery

open Search (Engine Request Options Result LoadOptions)

/-!
# Answers without deleted archives

What a search lists is not deleted unless it is asked to show everything, and the
items of such archives are loaded from the same rows whether the deleted ones are
there or not.  So both handlers answer the same in a store without them.  The items
handler always does, since its query is empty.  The listing does unless its search is
refused in one of the stores, for the size of its statement or for words that cannot
be read.
-/

/-! ## What is loaded -/

namespace Search

section Shown

variable {database : Database} {site : Config.Site} {request : Request} {options : Options}

/-- What is loaded of archives that are not deleted does not depend on those that are. -/
theorem Engine.load_purge (keyed : database.store.Keyed) {ids : List Int64}
    (shown : ∀ id ∈ ids, database.store.isDeleted id = false) (loading : LoadOptions) :
    (Engine.mk (.sqlite database.purge) site).load ids loading =
      (Engine.mk (.sqlite database) site).load ids loading := by
  have rows : database.purge.itemRows ids = database.itemRows ids := by
    have sameIds : database.purge.store.withIds ids = database.store.withIds ids :=
      Store.withIds_purge keyed shown
    have sameRows : (database.store.withIds ids).map database.purge.store.itemRow =
        (database.store.withIds ids).map database.store.itemRow := by
      apply List.map_congr_left
      intro archive member
      exact Store.itemRow_purge (shown archive.id
        (List.contains_iff_mem.mp (List.mem_filter.mp member).2))
    rw [Database.itemRows, Database.itemRows, sameIds, sameRows]
    rfl
  simp only [Engine.load, Connection.dialect, Connection.run_sqlite, rows]

theorem mem_of_mem_paginate {α : Type} {items : List α} {page limit : UInt64} {item : α}
    (member : item ∈ paginate items page limit) : item ∈ items := by
  rw [paginate] at member
  split at member
  · exact member
  · exact List.mem_of_mem_drop (List.mem_of_mem_take member)

/-- A page shows a part of the listing. -/
theorem exists_listing_of_page {engine : Engine} {result : Result}
    (answered : engine.search request options = .ok result) :
    ∃ ids, engine.listing request options = .ok ids ∧ ∀ id ∈ result.ids, id ∈ ids := by
  rw [Engine.search_eq_listing] at answered
  cases listed : engine.listing request options with
  | error error =>
      rw [listed] at answered
      cases answered
  | ok ids =>
      rw [listed] at answered
      cases answered
      refine ⟨ids, rfl, fun id member => ?_⟩
      simp only [resultOf] at member
      split at member
      · exact member
      · exact mem_of_mem_paginate member

/-- Nothing that is deleted is shown. -/
theorem undeleted_of_mem_search (present : database.missing = []) (keyed : database.store.Keyed)
    (hidden : options.showHidden = false) {result : Result}
    (answered : (Engine.mk (.sqlite database) site).search request options = .ok result) :
    ∀ id ∈ result.ids, database.store.isDeleted id = false := by
  intro id member
  rcases exists_listing_of_page answered with ⟨ids, listed, inside⟩
  rcases (mem_listing_iff present keyed listed id).mp (inside id member) with
    ⟨archive, inArchives, rfl, wanted⟩
  rw [Store.isDeleted_of_mem keyed inArchives, wanted.admitted.visible hidden]
  rfl

end Shown

end Search

/-! ## What is answered -/

namespace Service

section Handlers

variable {database : Database} {site : Config.Site}

theorem library_purge_of_search (present : database.missing = []) (keyed : database.store.Keyed)
    {params : List (String × String)} {freshSeed : String}
    (same : (Engine.mk (.sqlite database.purge) site).search
        (seededRequest params site freshSeed) {} =
      (Engine.mk (.sqlite database) site).search (seededRequest params site freshSeed) {}) :
    library (Engine.mk (.sqlite database.purge) site) params freshSeed =
      library (Engine.mk (.sqlite database) site) params freshSeed := by
  simp only [library, same]
  cases answered : (Engine.mk (.sqlite database) site).search
      (seededRequest params site freshSeed) {} with
  | error _ => rfl
  | ok result =>
      have shown := Search.undeleted_of_mem_search present keyed rfl answered
      simp only [Engine.load_purge keyed shown]

theorem library_of_error {engine : Engine} {params : List (String × String)} {freshSeed : String}
    {error : Search.SearchError}
    (refused : engine.search (seededRequest params engine.site freshSeed) {} = .error error) :
    library engine params freshSeed = .error searchFailed := by
  simp only [library, refused]

/-- Asking for items by their ids is a search with an empty query, which always fits and has
no words. -/
theorem search_ids_purge (present : database.missing = []) (keyed : database.store.Keyed)
    (ids : List Int64) :
    (Engine.mk (.sqlite database.purge) site).search {}
        { allowIds := some ids, skipPagination := true } =
      (Engine.mk (.sqlite database) site).search {}
        { allowIds := some ids, skipPagination := true } := by
  let options : Options := { allowIds := some ids, skipPagination := true }
  have fits : ∀ store : Store, (Search.planOf store {} options).Fits := by
    intro store
    apply Search.fits_planOf <;> decide
  have readable : (Search.planOf database.store {} options).wantsUnreadable = false := by
    rw [Search.wantsUnreadable_planOf, Search.conditionsBefore, Search.conditionsAfter,
      Query.parse_empty]
    rfl
  have hidden : options.showHidden = false := rfl
  rcases Engine.search_purge present keyed {} hidden site with same | refused | refused
  · exact same
  · exact absurd refused (Search.not_refusedWithDeleted (fits _) readable)
  · exact absurd refused (Search.not_refusedWithoutDeleted (fits _))

theorem items_purge (present : database.missing = []) (keyed : database.store.Keyed)
    (ids : List Int64) :
    items (Engine.mk (.sqlite database.purge) site) ids =
      items (Engine.mk (.sqlite database) site) ids := by
  simp only [items, search_ids_purge present keyed ids]
  cases answered : (Engine.mk (.sqlite database) site).search {}
      { allowIds := some ids, skipPagination := true } with
  | error _ => rfl
  | ok result =>
      have shown := Search.undeleted_of_mem_search present keyed rfl answered
      simp only [Engine.load_purge keyed shown]

theorem library_of_refusedWithDeleted {params : List (String × String)} {freshSeed : String}
    (refused : Search.RefusedWithDeleted database site (seededRequest params site freshSeed) {}) :
    library (Engine.mk (.sqlite database) site) params freshSeed = .error searchFailed := by
  rcases refused with ⟨_, tables | deep⟩ | ⟨⟨_, _, unread⟩, _⟩
  · exact library_of_error tables
  · exact library_of_error deep
  · exact library_of_error unread

theorem library_of_refusedWithoutDeleted {params : List (String × String)} {freshSeed : String}
    (refused : Search.RefusedWithoutDeleted database site (seededRequest params site freshSeed) {}) :
    library (Engine.mk (.sqlite database.purge) site) params freshSeed = .error searchFailed := by
  rcases refused with ⟨_, ⟨_, tables | deep⟩, _⟩
  · exact library_of_error tables
  · exact library_of_error deep

/-- Deleted archives leave no trace in what is answered without showing them.  Each search
answers as if they were gone, and so do the handlers.  The only exceptions are searches that
are refused before a row is tried: with the deleted archives for a statement that is too large,
or for words that cannot be read where many ids let it begin at the index, and without them for
a list of which one negative id is left. -/
theorem deleted_archives_leave_no_trace (site : Config.Site) (present : database.missing = [])
    (keyed : database.store.Keyed) :
    (∀ request options, options.showHidden = false →
      (Engine.mk (.sqlite database.purge) site).search request options =
          (Engine.mk (.sqlite database) site).search request options ∨
        Search.RefusedWithDeleted database site request options ∨
        Search.RefusedWithoutDeleted database site request options) ∧
    (∀ params freshSeed,
      library (Engine.mk (.sqlite database.purge) site) params freshSeed =
          library (Engine.mk (.sqlite database) site) params freshSeed ∨
        Search.RefusedWithDeleted database site (seededRequest params site freshSeed) {} ∧
          library (Engine.mk (.sqlite database) site) params freshSeed = .error searchFailed ∨
        Search.RefusedWithoutDeleted database site (seededRequest params site freshSeed) {} ∧
          library (Engine.mk (.sqlite database.purge) site) params freshSeed =
            .error searchFailed) ∧
    ∀ ids, items (Engine.mk (.sqlite database.purge) site) ids =
      items (Engine.mk (.sqlite database) site) ids := by
  refine ⟨fun request options hidden => Engine.search_purge present keyed request hidden site,
    fun params freshSeed => ?_, items_purge present keyed⟩
  rcases Engine.search_purge present keyed (seededRequest params site freshSeed)
      (show Options.showHidden {} = false from rfl) site with same | refused | refused
  · exact Or.inl (library_purge_of_search present keyed same)
  · exact Or.inr (Or.inl ⟨refused, library_of_refusedWithDeleted refused⟩)
  · exact Or.inr (Or.inr ⟨refused, library_of_refusedWithoutDeleted refused⟩)

end Handlers

/-! ## A gallery with a deleted archive -/

section Example

open Search (countingQuery countingFilters someLetters otherLetters parse_tokens languageQuery
  languagePlan listing_languageQuery nesting_languagePlan evaluate_languagePlan twoArchives)

/-- A gallery with two archives, of which the only one with a tag is deleted. -/
def oneOfTwoDeleted : Database :=
  (twoArchives.run (.updateArchive 1 .deletedAt (.text "2020-01-01 00:00:00"))).2

theorem reachable_oneOfTwoDeleted : Database.Reachable oneOfTwoDeleted :=
  .edited _ Search.reachable_twoArchives trivial

/-- The search that is made for all but one tag. -/
def allButOneTag : Request := { query := "-artist:jane" }

/-- The archive that is left is found and shown as if the deleted one were gone. -/
theorem oneOfTwoDeleted_leaves_no_trace :
    oneOfTwoDeleted.missing = [] ∧ oneOfTwoDeleted.store.Keyed ∧
      oneOfTwoDeleted.store.isDeleted 1 = true ∧
      (Engine.mk (.sqlite oneOfTwoDeleted.purge) {}).search allButOneTag {} =
        .ok { ids := [2], total := 1 } ∧
      library (Engine.mk (.sqlite oneOfTwoDeleted.purge) {}) [("q", "-artist:jane")] "" =
        library (Engine.mk (.sqlite oneOfTwoDeleted) {}) [("q", "-artist:jane")] "" ∧
      items (Engine.mk (.sqlite oneOfTwoDeleted.purge) {}) [1, 2] =
        items (Engine.mk (.sqlite oneOfTwoDeleted) {}) [1, 2] := by
  have present : oneOfTwoDeleted.missing = [] := rfl
  have keyed := reachable_oneOfTwoDeleted.keyed
  rcases deleted_archives_leave_no_trace {} present keyed with ⟨searches, listings, loaded⟩
  refine ⟨present, keyed, by decide +kernel, ?_, ?_, loaded [1, 2]⟩
  · rcases searches allButOneTag {} rfl with same | refused | refused
    · rw [same]
      decide +kernel
    · exact absurd refused
        (Search.not_refusedWithDeleted (by decide +kernel) (by decide +kernel))
    · exact absurd refused (Search.not_refusedWithoutDeleted (by decide +kernel))
  · rcases listings [("q", "-artist:jane")] "" with same | ⟨refused, _⟩ | ⟨refused, _⟩
    · exact same
    · exact absurd refused
        (Search.not_refusedWithDeleted (by decide +kernel) (by decide +kernel))
    · exact absurd refused (Search.not_refusedWithoutDeleted (by decide +kernel))

/-- A search for an optional tag that only the deleted archive carries, with the counts of
sixty-three namespaces. -/
def crowdedQuery : String :=
  "~artist:jane" ++ " " ++ countingQuery (someLetters ++ otherLetters)

theorem parse_crowdedQuery :
    Query.parse crowdedQuery =
      { tags := [⟨"artist", "jane%", .optional⟩]
        numbers := countingFilters (someLetters ++ otherLetters) } := by
  have counts : Query.parse (countingQuery (someLetters ++ otherLetters)) =
      { numbers := countingFilters (someLetters ++ otherLetters) } :=
    Search.parse_countingQuery (by decide) fun _ member => member
  rw [crowdedQuery, Query.parse_append_blank _ (by decide), parse_tokens.1, counts]
  rfl

/-- Without the deleted archive such a search ends before its statement is written, and with it
the statement is too large. -/
theorem search_crowdedQuery :
    (Engine.mk (.sqlite oneOfTwoDeleted) {}).search { query := crowdedQuery }
        { skipPagination := true } = .error (.backend .tooManyTables) ∧
      (Engine.mk (.sqlite oneOfTwoDeleted.purge) {}).search { query := crowdedQuery }
        { skipPagination := true } = .ok {} := by
  have tags : (Search.queryOf { query := crowdedQuery } { skipPagination := true }).tags =
      [⟨"artist", "jane%", .optional⟩] := by
    rw [Search.queryOf, parse_crowdedQuery]
    rfl
  constructor
  · apply Search.Engine.search_of_many_namespaces rfl
    · decide
    · rw [Search.givesUp, tags]
      decide +kernel
    · rw [Search.resolved, tags]
      decide +kernel
    · rw [parse_crowdedQuery]
      exact Search.countsNamespace_of_mem
    · rw [parse_crowdedQuery]
      decide
  · have presentToo : oneOfTwoDeleted.purge.missing = [] := rfl
    rw [Engine.search_eq_listing, Engine.listing_of_present presentToo, Search.givesUp,
      Search.resolved, tags]
    decide +kernel

/-- A gallery in which only deleted archives carry a tag, as many of them as are asked for. -/
def deletedCarriers (count : Nat) : Database where
  store := {
    archives := (List.range count).map fun number =>
      { id := Int64.ofNat number, hash := String.ofList (Nat.toDigits 10 number)
        title := "A Tale", createdAt := "2020-01-01 00:00:00"
        deletedAt := some "2020-01-02 00:00:00" }
    tags := [{ id := 1, scope := "artist", name := "jane", displayName := none }]
    links := (List.range count).map fun number =>
      ⟨Int64.ofNat number, 1, "2020-01-01 00:00:00"⟩
    index := (List.range count).map fun number =>
      ⟨Int64.ofNat number, "A Tale", "", "jane"⟩
    lastArchive := Int64.ofNat count
    lastTag := 1 }

/-- The gallery in which a further archive, with a negative id, carries the tag of the deleted
one. -/
def oneNegativeLeft : Database :=
  let inserted := (oneOfTwoDeleted.run (.insertArchive (some (-5))
    { hash := "other", title := "A Tale", createdAt := "2020-01-01 00:00:00" })).2
  (inserted.run (.link (-5) "artist" "jane" none "2020-01-01 00:00:00")).2

theorem reachable_oneNegativeLeft : Database.Reachable oneNegativeLeft :=
  .edited _ (.edited _ reachable_oneOfTwoDeleted trivial) trivial

/-- With the deleted archive two ids are listed and the statement just fits.  Without it one
negative id is left. -/
theorem search_languageQuery :
    (Engine.mk (.sqlite oneNegativeLeft) {}).search { query := languageQuery 996 } {} = .ok {} ∧
      (Engine.mk (.sqlite oneNegativeLeft.purge) {}).search { query := languageQuery 996 } {} =
        .error (.backend .tooDeep) := by
  have carried : oneNegativeLeft.store.resolutionOf [⟨"artist", "jane%", .optional⟩] =
      { optional := some [1, -5] } := by decide +kernel
  have left : oneNegativeLeft.purge.store.resolutionOf [⟨"artist", "jane%", .optional⟩] =
      { optional := some [-5] } := by decide +kernel
  have answered : (languagePlan [1, -5] 996).evaluate oneNegativeLeft = .ok [] := by
    apply evaluate_languagePlan rfl
    · rw [nesting_languagePlan]
      decide
    · decide +kernel
  have refused : (languagePlan [-5] 996).evaluate oneNegativeLeft.purge = .error .tooDeep := by
    have tables : ¬ tableLimit < (languagePlan [-5] 996).joins.length + 1 := by decide
    have levels : nestingLimit < (languagePlan [-5] 996).nesting := by
      rw [nesting_languagePlan]
      decide
    have deep : (languagePlan [-5] 996).refusal? oneNegativeLeft.purge = some .tooDeep := by
      rw [Plan.refusal?, Plan.refusal?_of_present rfl]
      exact (if_neg tables).trans (if_pos levels)
    rw [Plan.evaluate, deep]
  constructor
  · rw [Engine.search_eq_listing, listing_languageQuery 996 rfl carried (List.cons_ne_nil _ _),
      answered]
    rfl
  · rw [Engine.search_eq_listing, listing_languageQuery 996 rfl left (List.cons_ne_nil _ _),
      refused]
    rfl

/-- Searches that deleted archives make a difference to: one is refused for its size with them,
one for words that cannot be read, and one is refused without them. -/
theorem deleted_archives_change_refusals :
    (oneOfTwoDeleted.missing = [] ∧ oneOfTwoDeleted.store.Keyed ∧
      (Engine.mk (.sqlite oneOfTwoDeleted) {}).search { query := crowdedQuery }
        { skipPagination := true } = .error (.backend .tooManyTables) ∧
      (Engine.mk (.sqlite oneOfTwoDeleted.purge) {}).search { query := crowdedQuery }
        { skipPagination := true } = .ok {}) ∧
    ((deletedCarriers 26).missing = [] ∧ (deletedCarriers 26).store.Keyed ∧
      (Engine.mk (.sqlite (deletedCarriers 26)) {}).search { query := "~artist:jane a\x00" } {} =
        .error (.backend .malformedExpression) ∧
      (Engine.mk (.sqlite (deletedCarriers 26).purge) {}).search
        { query := "~artist:jane a\x00" } {} = .ok {}) ∧
    oneNegativeLeft.missing = [] ∧ oneNegativeLeft.store.Keyed ∧
      (Engine.mk (.sqlite oneNegativeLeft) {}).search { query := languageQuery 996 } {} = .ok {} ∧
      (Engine.mk (.sqlite oneNegativeLeft.purge) {}).search { query := languageQuery 996 } {} =
        .error (.backend .tooDeep) := by
  refine ⟨⟨rfl, reachable_oneOfTwoDeleted.keyed, search_crowdedQuery⟩,
    ⟨rfl, ⟨by decide +kernel, by decide +kernel, by decide +kernel, by decide +kernel⟩,
      by decide +kernel, by decide +kernel⟩,
    rfl, reachable_oneNegativeLeft.keyed, search_languageQuery⟩

end Example

end Service
end Gallery
