import Gallery.Proofs.Search.Correctness
import Gallery.Proofs.Search.JointTrial

namespace Gallery
namespace Search

open Database (oneArchive)
open Plan (SidesJoin)
open Store (Archive)

/-!
# Two queries in one line

The pieces are put together here.  A line of two queries wants what both of them
want, and it is answered if both are answered and its statement is not too large.
-/

section Pairs

variable {database : Database} {site : Config.Site} {request : Request} {options : Options}
  {a b : String}

/-- A line of two queries wants what both of them want. -/
theorem wants_both_iff {store : Store} {archive : Archive} (quoteFree : '"' ∉ a.toList)
    (apart : (Query.parse a).Apart (Query.parse b)) :
    Wants (request.withQuery (a ++ " " ++ b)) options store archive ↔
      Wants (request.withQuery a) options store archive ∧
        Wants (request.withQuery b) options store archive := by
  have satisfied := Query.satisfiedBy_both_iff apart store archive
  rw [← Query.parse_append_blank b quoteFree] at satisfied
  constructor
  · rintro ⟨⟨visible, allowed, listed, inSeries, unlisted⟩, both⟩
    have each := satisfied.mp both
    exact ⟨⟨⟨visible, allowed, listed, inSeries, unlisted⟩, each.1⟩,
      ⟨⟨visible, allowed, listed, inSeries, unlisted⟩, each.2⟩⟩
  · rintro ⟨⟨⟨visible, allowed, listed, inSeries, unlisted⟩, left⟩, ⟨_, right⟩⟩
    exact ⟨⟨visible, allowed, listed, inSeries, unlisted⟩, satisfied.mpr ⟨left, right⟩⟩

/-- A line of two queries lists what both of them list. -/
theorem mem_listing_both_iff {left right both : List Int64} (present : database.missing = [])
    (keyed : database.store.Keyed) (quoteFree : '"' ∉ a.toList)
    (apart : (Query.parse a).Apart (Query.parse b))
    (first : (Engine.mk (.sqlite database) site).listing (request.withQuery a) options = .ok left)
    (second : (Engine.mk (.sqlite database) site).listing (request.withQuery b) options = .ok right)
    (line : (Engine.mk (.sqlite database) site).listing (request.withQuery (a ++ " " ++ b)) options =
      .ok both) (id : Int64) : id ∈ both ↔ id ∈ left ∧ id ∈ right := by
  rw [mem_listing_iff present keyed line, mem_listing_iff present keyed first,
    mem_listing_iff present keyed second]
  constructor
  · rintro ⟨archive, member, isId, wants⟩
    have each := (wants_both_iff quoteFree apart).mp wants
    exact ⟨⟨archive, member, isId, each.1⟩, archive, member, isId, each.2⟩
  · rintro ⟨⟨archive, member, isId, wants⟩, other, inStore, otherIsId, otherWants⟩
    have same := Store.eq_of_unique_key keyed.archives inStore member (otherIsId.trans isId.symm)
    exact ⟨archive, member, isId, (wants_both_iff quoteFree apart).mpr ⟨wants, same ▸ otherWants⟩⟩

theorem givesUp_both (quoteFree : '"' ∉ a.toList)
    (first : givesUp database (request.withQuery a) options = false)
    (second : givesUp database (request.withQuery b) options = false) :
    givesUp database (request.withQuery (a ++ " " ++ b)) options = false := by
  rw [givesUp_eq_false_iff] at first second ⊢
  intro filter member role
  rcases mem_queryOf_tags.mp member with parsed | listed
  · rw [Request.withQuery, Query.parse_append_blank b quoteFree] at parsed
    rcases List.mem_append.mp parsed with inFirst | inSecond
    · exact first filter (mem_queryOf_tags.mpr (Or.inl inFirst)) role
    · exact second filter (mem_queryOf_tags.mpr (Or.inl inSecond)) role
  · exact first filter (mem_queryOf_tags.mpr (Or.inr listed)) role

/-- A line of two queries is answered if both are answered and its statement fits. -/
theorem exists_listing_both {left right : List Int64} (present : database.missing = [])
    (keyed : database.store.Keyed) (quoteFree : '"' ∉ a.toList)
    (freeFirst : FullText.NullFree a.toList) (freeSecond : FullText.NullFree b.toList)
    (apart : (Query.parse a).Apart (Query.parse b))
    (first : (Engine.mk (.sqlite database) site).listing (request.withQuery a) options = .ok left)
    (second : (Engine.mk (.sqlite database) site).listing (request.withQuery b) options = .ok right)
    (fits : (planOf database.store (request.withQuery (a ++ " " ++ b)) options).Fits) :
    ∃ both, (Engine.mk (.sqlite database) site).listing (request.withQuery (a ++ " " ++ b)) options =
      .ok both := by
  by_cases allowed : options.allowIds = some []
  · rw [Engine.listing_of_present present, if_pos allowed]
    exact ⟨[], rfl⟩
  have accepted := givesUp_both quoteFree (Engine.of_listing present first allowed).1
    (Engine.of_listing present second allowed).1
  by_cases noneCarries :
      (resolved database.store (request.withQuery (a ++ " " ++ b)) options).optional = some []
  · rw [Engine.listing_of_present present, if_neg allowed, accepted]
    exact ⟨[], if_pos noneCarries⟩
  rcases carried_of_both quoteFree apart noneCarries with ⟨carriedFirst, carriedSecond⟩
  have readable : (planOf database.store (request.withQuery (a ++ " " ++ b)) options).wantsUnreadable
      = false := by
    apply Plan.wantsUnreadable_of_free
    intro words member
    cases origin_of_mem member with
    | title => exact Query.keptNullFree_ofChars (nullFree_line freeFirst freeSecond)
  have answered : (planOf database.store (request.withQuery (a ++ " " ++ b)) options).refusal?
      database = none := by
    refine Plan.refusal?_of_rows present fits readable ?_
    by_cases nothing : request.ids = some []
    · exact Or.inl (selectsNothing_planOf_iff.mpr (Or.inr (Or.inl nothing)))
    · apply Or.inr
      intro archive member
      rcases Engine.tried_of_listing present first allowed nothing carriedFirst member with
          ⟨_, triedFirst⟩
      rcases Engine.tried_of_listing present second allowed nothing carriedSecond member with
          ⟨_, triedSecond⟩
      exact ⟨_, (sidesJoin_planOf keyed quoteFree freeFirst freeSecond apart archive).trialOrder _ _
        triedFirst triedSecond⟩
  rw [Engine.listing_of_present present, if_neg allowed, accepted]
  simp only [Bool.false_eq_true, if_false]
  rw [if_neg noneCarries, Plan.evaluate, answered]
  exact ⟨_, rfl⟩

end Pairs

/-! ## The meaning of a line -/

/-- A line of two queries finds what both of them find, and it is answered if both are
answered and its statement fits. -/
theorem search_of_two_queries {database : Database} (site : Config.Site) (request : Request)
    (options : Options) {a b : String} (present : database.missing = [])
    (keyed : database.store.Keyed) (whole : options.skipPagination = true)
    (freeFirst : FullText.NullFree a.toList) (freeSecond : FullText.NullFree b.toList)
    (quoteFree : '"' ∉ a.toList) (apart : (Query.parse a).Apart (Query.parse b))
    {left right : Result}
    (first : (Engine.mk (.sqlite database) site).search (request.withQuery a) options = .ok left)
    (second : (Engine.mk (.sqlite database) site).search (request.withQuery b) options = .ok right) :
    (∀ both, (Engine.mk (.sqlite database) site).search (request.withQuery (a ++ " " ++ b)) options =
        .ok both → ∀ id, id ∈ both.ids ↔ id ∈ left.ids ∧ id ∈ right.ids) ∧
    ((planOf database.store (request.withQuery (a ++ " " ++ b)) options).Fits →
      ∃ both, (Engine.mk (.sqlite database) site).search (request.withQuery (a ++ " " ++ b)) options =
        .ok both) := by
  rcases exists_listing_of_search whole first with ⟨leftIds, listedFirst, sameFirst⟩
  rcases exists_listing_of_search whole second with ⟨rightIds, listedSecond, sameSecond⟩
  constructor
  · intro both line id
    rcases exists_listing_of_search whole line with ⟨ids, listed, same⟩
    rw [sameFirst, sameSecond, same]
    exact mem_listing_both_iff present keyed quoteFree apart listedFirst listedSecond listed id
  · intro fits
    rcases exists_listing_both present keyed quoteFree freeFirst freeSecond apart
        listedFirst listedSecond fits with ⟨ids, listed⟩
    rw [Engine.search_eq_listing, listed]
    exact ⟨_, rfl⟩

/-- In the gallery with one archive a tag and a word of the title are found together. -/
theorem oneArchive_two_queries :
    ∃ left right both,
      (Engine.mk (.sqlite oneArchive) {}).search (Request.withQuery {} "artist:jane")
        { skipPagination := true } = .ok left ∧
      (Engine.mk (.sqlite oneArchive) {}).search (Request.withQuery {} "tale -bob")
        { skipPagination := true } = .ok right ∧
      (Engine.mk (.sqlite oneArchive) {}).search
        (Request.withQuery {} ("artist:jane" ++ " " ++ "tale -bob")) { skipPagination := true } =
          .ok both ∧
      ∀ id, id ∈ both.ids ↔ id ∈ left.ids ∧ id ∈ right.ids := by
  have first : (Engine.mk (.sqlite oneArchive) {}).search (Request.withQuery {} "artist:jane")
      { skipPagination := true } = .ok ⟨[1], 1⟩ := by decide +kernel
  have second : (Engine.mk (.sqlite oneArchive) {}).search (Request.withQuery {} "tale -bob")
      { skipPagination := true } = .ok ⟨[1], 1⟩ := by decide +kernel
  have apart : (Query.parse "artist:jane").Apart (Query.parse "tale -bob") := {
    subjects := by decide +kernel
    tags := by decide +kernel
    sources := by decide +kernel
    urls := by decide +kernel
    words := by decide +kernel }
  have present : oneArchive.missing = [] := rfl
  have meaning := search_of_two_queries {} {} { skipPagination := true } present
    Database.reachable_oneArchive.keyed rfl (by decide +kernel) (by decide +kernel)
    (by decide +kernel) apart
    first second
  rcases meaning.2 (by decide +kernel) with ⟨both, line⟩
  exact ⟨_, _, both, first, second, line, meaning.1 both line⟩

/-! ## Where a line is refused -/

/-- Two queries that are answered, and a line of both that joins too many tables. -/
theorem two_queries_exceed_table_limit :
    Database.empty.migrate.missing = [] ∧ Database.empty.migrate.store.Keyed ∧
      FullText.NullFree (countingQuery someLetters).toList ∧
      FullText.NullFree (countingQuery otherLetters).toList ∧
      '"' ∉ (countingQuery someLetters).toList ∧
      (Query.parse (countingQuery someLetters)).Apart (Query.parse (countingQuery otherLetters)) ∧
      (∃ left, (Engine.mk (.sqlite Database.empty.migrate) {}).search
        (Request.withQuery {} (countingQuery someLetters)) { skipPagination := true } = .ok left) ∧
      (∃ right, (Engine.mk (.sqlite Database.empty.migrate) {}).search
        (Request.withQuery {} (countingQuery otherLetters)) { skipPagination := true } = .ok right) ∧
      (Engine.mk (.sqlite Database.empty.migrate) {}).search
        (Request.withQuery {} (countingQuery someLetters ++ " " ++ countingQuery otherLetters))
        { skipPagination := true } = .error (.backend .tooManyTables) := by
  have readSome := parse_countingQuery (show someLetters.Nodup by decide) fun _ =>
    List.mem_append_left otherLetters
  have readOther := parse_countingQuery (show otherLetters.Nodup by decide) fun _ =>
    List.mem_append_right someLetters
  have quoteFree : '"' ∉ (countingQuery someLetters).toList := by
    rw [countingQuery, String.toList_ofList]
    decide
  have apart : (Query.parse (countingQuery someLetters)).Apart
      (Query.parse (countingQuery otherLetters)) := by
    rw [readSome, readOther]
    exact apart_of_disjoint someLetters_disjoint
  have read : Query.parse (countingQuery someLetters ++ " " ++ countingQuery otherLetters) =
      { numbers := countingFilters (someLetters ++ otherLetters) } := by
    rw [Query.parse_append_blank _ quoteFree, readSome, readOther,
      both_countingFilters someLetters_disjoint]
  have answered : ∀ {query : String} {letters : List Char},
      Query.parse query = { numbers := countingFilters letters } → letters.length ≤ 62 →
      ∃ found, (Engine.mk (.sqlite Database.empty.migrate) {}).search (Request.withQuery {} query)
        { skipPagination := true } = .ok found := by
    intro query letters alone few
    have within : WithinLimits Database.empty.migrate.store (Request.withQuery {} query)
        { skipPagination := true } := withinLimits_of_few_counts alone rfl few
    exact exists_search rfl within {}
  refine ⟨rfl, Database.Reachable.fresh.keyed, ?_, ?_, quoteFree, apart,
    answered readSome (by decide), answered readOther (by decide),
    Engine.search_of_many_counts rfl {} (by decide) rfl read (by decide)⟩
  · rw [countingQuery, String.toList_ofList]
    decide
  · rw [countingQuery, String.toList_ofList]
    decide

end Search
end Gallery
