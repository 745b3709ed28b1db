import Gallery.Proofs.Query.SignedToken
import Gallery.Proofs.Search.Correctness

namespace Gallery

open Database (oneArchive)

/-!
# The three forms of a tag filter

A tag can be asked for, excluded, or made one of several alternatives.  One would
expect the excluded form to find what the plain form leaves, and the optional form
alone to find what the plain form finds.  But the forms are not compared in one
place: a required tag is looked up while rows are tried, the others are resolved
to archives beforehand.  The look-up knows a tag of a named namespace by its name
only; the resolution knows it by the name that is shown as well.

So the forms agree exactly where no archive is found by a shown name alone.  The
generic namespace is safe, since there both sides know both names.
-/

/-! ## Queries of one filter -/

namespace Store

/-- What the look-up finds the resolution finds too. -/
theorem matchesTag_of_carriesMatch {filter : Query.TagFilter} {tag : Listing.Tag}
    (found : carriesMatch filter.scope filter.pattern tag = true) : filter.matchesTag tag = true := by
  rw [carriesMatch] at found
  rw [Query.TagFilter.matchesTag, Query.TagFilter.reaches]
  cases generic : Query.isGeneric filter.scope with
  | true =>
      rw [generic, if_pos rfl] at found
      rw [found]
      rfl
  | false =>
      rw [generic] at found
      rcases Bool.and_eq_true_iff.mp found with ⟨named, within⟩
      rw [named, within]
      rfl

/-- In the generic namespace both are the same. -/
theorem matchesTag_eq_carriesMatch {filter : Query.TagFilter}
    (generic : Query.isGeneric filter.scope = true) :
    filter.matchesTag = carriesMatch filter.scope filter.pattern := by
  funext tag
  rw [Query.TagFilter.matchesTag, Query.TagFilter.reaches, carriesMatch, generic, if_pos rfl,
    Bool.true_or, Bool.true_and]

theorem carries_mono {store : Store} {archive : Int64} {first second : Listing.Tag → Bool}
    (implies : ∀ tag, first tag = true → second tag = true)
    (carried : store.carries archive first = true) : store.carries archive second = true := by
  rcases (store.carries_iff archive first).mp carried with
      ⟨link, inLinks, isArchive, tag, inTags, isTag, matched⟩
  exact (store.carries_iff archive second).mpr
    ⟨link, inLinks, isArchive, tag, inTags, isTag, implies tag matched⟩

end Store

namespace Query

variable {store : Store} {archive : Store.Archive} {filter : TagFilter}

theorem satisfiedBy_empty : ({} : Query).SatisfiedBy store archive where
  required := List.forall_mem_nil _
  excluded := List.forall_mem_nil _
  optional := fun ⟨_, member, _⟩ => absurd member List.not_mem_nil
  title := store.meetsTitle_of_isEmpty archive.id rfl
  languages := List.forall_mem_nil _
  sources := fun some => absurd rfl some
  urls := fun some => absurd rfl some
  numbers := List.forall_mem_nil _

/-- What a query of one tag filter demands. -/
theorem satisfiedBy_single_iff :
    ({ tags := [filter] } : Query).SatisfiedBy store archive ↔
      match filter.role with
      | .required =>
          store.carries archive.id (Store.carriesMatch filter.scope filter.pattern) = true
      | .excluded => store.carries archive.id filter.matchesTag = false
      | .optional => store.carries archive.id filter.matchesTag = true := by
  constructor
  · intro satisfied
    cases role : filter.role with
    | required => exact satisfied.required filter List.mem_cons_self role
    | excluded => exact satisfied.excluded filter List.mem_cons_self role
    | optional =>
        rcases satisfied.optional ⟨filter, List.mem_cons_self, role⟩ with
            ⟨other, member, _, carried⟩
        exact List.mem_singleton.mp member ▸ carried
  · intro demanded
    refine { (satisfiedBy_empty : ({} : Query).SatisfiedBy store archive) with
      required := fun other member role => ?_
      excluded := fun other member role => ?_
      optional := fun ⟨other, member, role⟩ => ?_ }
    · rw [List.mem_singleton.mp member] at role ⊢
      rwa [role] at demanded
    · rw [List.mem_singleton.mp member] at role ⊢
      rwa [role] at demanded
    · rw [List.mem_singleton.mp member] at role
      rw [role] at demanded
      exact ⟨filter, List.mem_cons_self, role, demanded⟩

end Query

namespace Search

open Query (TagFilter)
open Store (Archive)

section Forms

variable {database : Database} {site : Config.Site} {request : Request} {options : Options}
  {filter : TagFilter} {query : String}

theorem wants_withQuery_iff {store : Store} {archive : Archive} :
    Wants (request.withQuery query) options store archive ↔
      Admits request options store archive ∧ (Query.parse query).SatisfiedBy store archive := by
  constructor
  · rintro ⟨⟨visible, allowed, listed, inSeries, unlisted⟩, satisfied⟩
    exact ⟨⟨visible, allowed, listed, inSeries, unlisted⟩, satisfied⟩
  · rintro ⟨⟨visible, allowed, listed, inSeries, unlisted⟩, satisfied⟩
    exact ⟨⟨visible, allowed, listed, inSeries, unlisted⟩, satisfied⟩

/-- A query of one tag filter finds, of what the empty query finds, what meets its demand. -/
theorem mem_single_iff {every found : Result} (present : database.missing = [])
    (keyed : database.store.Keyed) (whole : options.skipPagination = true)
    (answered : (Engine.mk (.sqlite database) site).search (request.withQuery "") options = .ok every)
    (read : Query.parse query = { tags := [filter] })
    (single : (Engine.mk (.sqlite database) site).search (request.withQuery query) options = .ok found)
    (id : Int64) :
    id ∈ found.ids ↔ id ∈ every.ids ∧
      match filter.role with
      | .required => database.store.carries id (Store.carriesMatch filter.scope filter.pattern) = true
      | .excluded => database.store.carries id filter.matchesTag = false
      | .optional => database.store.carries id filter.matchesTag = true := by
  rcases exists_listing_of_search whole answered with ⟨everyIds, listedEvery, rfl⟩
  rcases exists_listing_of_search whole single with ⟨foundIds, listedFound, rfl⟩
  have nothing : Query.parse "" = {} := by decide
  rw [mem_listing_iff present keyed listedEvery, mem_listing_iff present keyed listedFound]
  simp only [wants_withQuery_iff, read, nothing, Query.satisfiedBy_single_iff,
    Query.satisfiedBy_empty, and_true]
  constructor
  · rintro ⟨archive, member, rfl, admitted, demanded⟩
    exact ⟨⟨archive, member, rfl, admitted⟩, demanded⟩
  · rintro ⟨⟨archive, member, rfl, admitted⟩, demanded⟩
    exact ⟨archive, member, rfl, admitted, demanded⟩

/-- Where the empty query is answered, so is every query of one filter with a short pattern. -/
theorem exists_search_single {every : Result} (present : database.missing = [])
    (answered : (Engine.mk (.sqlite database) site).search (request.withQuery "") options = .ok every)
    (read : Query.parse query = { tags := [filter] })
    (short : isLongPattern filter.pattern = false) :
    ∃ found, (Engine.mk (.sqlite database) site).search (request.withQuery query) options =
      .ok found := by
  suffices listed : ∃ ids, (Engine.mk (.sqlite database) site).listing (request.withQuery query)
      options = .ok ids by
    rcases listed with ⟨ids, listed⟩
    rw [Engine.search_eq_listing, listed]
    exact ⟨_, rfl⟩
  by_cases allowed : options.allowIds = some []
  · rw [Engine.listing_of_present present, if_pos allowed]
    exact ⟨[], rfl⟩
  have parsed : Query.parse (request.withQuery query).query = { tags := [filter] } := read
  have accepted : givesUp database (request.withQuery query) options = false := by
    rw [Engine.search_eq_listing] at answered
    cases listed : (Engine.mk (.sqlite database) site).listing (request.withQuery "") options with
    | error error =>
        rw [listed] at answered
        cases answered
    | ok ids =>
        have unlisted := givesUp_eq_false_iff.mp (Engine.of_listing present listed allowed).1
        apply givesUp_eq_false_iff.mpr
        intro other member role
        rcases mem_queryOf_tags.mp member with inQuery | inBlacklist
        · rw [parsed] at inQuery
          rw [Database.givesUpOn, List.mem_singleton.mp inQuery, short, Bool.false_and]
        · exact unlisted other (mem_queryOf_tags.mpr (Or.inr inBlacklist)) role
  refine exists_listing_of_tame present accepted
    (fits_planOf (by rw [parsed]; exact Nat.zero_le 62)
      (by rw [parsed]; exact Nat.le_of_ble_eq_true rfl)) (fun condition member => ?_) site
  cases origin_of_mem member with
  | @required other inQuery =>
      rw [parsed] at inQuery
      rw [List.mem_singleton.mp inQuery]
      exact short
  | title => rw [parsed]; exact List.forall_mem_nil _
  | @language pattern inQuery => rw [parsed] at inQuery; cases inQuery
  | sources => rw [parsed]; exact List.forall_mem_nil _
  | urls => rw [parsed]; exact List.forall_mem_nil _
  | visible | inSeries | ids _ | excluded | number _ _ _ => trivial

end Forms

/-! ## When the forms agree -/

/-- The three forms of a tag token agree exactly if no archive of the whole listing is
found by the name that is shown of a tag alone.  In the generic namespace they always do. -/
theorem tag_filter_forms_agree_iff {database : Database} (site : Config.Site) (request : Request)
    (options : Options) {text : String} {filter : TagFilter} {every : Result}
    (present : database.missing = []) (keyed : database.store.Keyed)
    (whole : options.skipPagination = true) (token : Query.IsTagToken text.toList)
    (read : Query.parse text = { tags := [filter] }) (inclusive : filter.role = .required)
    (short : isLongPattern filter.pattern = false)
    (answered : (Engine.mk (.sqlite database) site).search (request.withQuery "") options =
      .ok every) :
    ∃ required excluded optional,
      (Engine.mk (.sqlite database) site).search (request.withQuery text) options = .ok required ∧
      (Engine.mk (.sqlite database) site).search (request.withQuery ("-" ++ text)) options =
        .ok excluded ∧
      (Engine.mk (.sqlite database) site).search (request.withQuery ("~" ++ text)) options =
        .ok optional ∧
      (((∀ id, id ∈ excluded.ids ↔ id ∈ every.ids ∧ id ∉ required.ids) ∧
          ∀ id, id ∈ optional.ids ↔ id ∈ required.ids) ↔
        ∀ id ∈ every.ids, database.store.carries id filter.matchesTag = true →
          database.store.carries id (Store.carriesMatch filter.scope filter.pattern) = true) ∧
      (Query.isGeneric filter.scope = true →
        (∀ id, id ∈ excluded.ids ↔ id ∈ every.ids ∧ id ∉ required.ids) ∧
          ∀ id, id ∈ optional.ids ↔ id ∈ required.ids) := by
  have signed : ∀ (sign : String) {mark : Char} {role : Query.Role}, sign.toList = [mark] →
      (∀ rest, Query.TagToken.sign (mark :: rest) = (role, 1, rest)) →
      Query.parse (sign ++ text) = { tags := [{ filter with role := role }] } := by
    intro sign mark role isMark signs
    rw [Query.parse, String.toList_append, isMark]
    exact Query.ofChars_signed signs token read inclusive
  have readExcluded := signed "-" rfl (fun _ => rfl)
  have readOptional := signed "~" rfl (fun _ => rfl)
  rcases exists_search_single present answered read short with ⟨required, foundRequired⟩
  rcases exists_search_single present answered readExcluded short with ⟨excluded, foundExcluded⟩
  rcases exists_search_single present answered readOptional short with ⟨optional, foundOptional⟩
  have memRequired := mem_single_iff present keyed whole answered read foundRequired
  have memExcluded := mem_single_iff present keyed whole answered readExcluded foundExcluded
  have memOptional := mem_single_iff present keyed whole answered readOptional foundOptional
  simp only [inclusive] at memRequired
  have agree : ((∀ id, id ∈ excluded.ids ↔ id ∈ every.ids ∧ id ∉ required.ids) ∧
      ∀ id, id ∈ optional.ids ↔ id ∈ required.ids) ↔
      ∀ id ∈ every.ids, database.store.carries id filter.matchesTag = true →
        database.store.carries id (Store.carriesMatch filter.scope filter.pattern) = true := by
    constructor
    · rintro ⟨_, same⟩ id inEvery matched
      exact ((memRequired id).mp ((same id).mp ((memOptional id).mpr ⟨inEvery, matched⟩))).2
    · intro named
      have resolved : ∀ id ∈ every.ids, (database.store.carries id filter.matchesTag = true ↔
          database.store.carries id (Store.carriesMatch filter.scope filter.pattern) = true) :=
        fun id inEvery => ⟨named id inEvery,
          Store.carries_mono fun _ => Store.matchesTag_of_carriesMatch⟩
      refine ⟨fun id => ?_, fun id => ?_⟩
      · rw [memExcluded id, memRequired id]
        apply and_congr_right
        intro inEvery
        rw [not_and, ← resolved id inEvery, Bool.not_eq_true]
        constructor
        · intro unmatched _
          exact unmatched
        · intro unmatched
          exact unmatched inEvery
      · rw [memOptional id, memRequired id]
        exact and_congr_right (resolved id)
  refine ⟨required, excluded, optional, foundRequired, foundExcluded, foundOptional, agree,
    fun generic => agree.mpr fun id _ matched => ?_⟩
  rwa [← Store.matchesTag_eq_carriesMatch generic]

/-- In the gallery with one archive the forms of the name that is linked agree. -/
theorem oneArchive_forms_agree :
    ∃ every required excluded optional,
      (Engine.mk (.sqlite oneArchive) {}).search (Request.withQuery {} "")
        { skipPagination := true } = .ok every ∧
      (Engine.mk (.sqlite oneArchive) {}).search (Request.withQuery {} "artist:jane")
        { skipPagination := true } = .ok required ∧
      (Engine.mk (.sqlite oneArchive) {}).search (Request.withQuery {} ("-" ++ "artist:jane"))
        { skipPagination := true } = .ok excluded ∧
      (Engine.mk (.sqlite oneArchive) {}).search (Request.withQuery {} ("~" ++ "artist:jane"))
        { skipPagination := true } = .ok optional ∧
      (∀ id, id ∈ excluded.ids ↔ id ∈ every.ids ∧ id ∉ required.ids) ∧
      ∀ id, id ∈ optional.ids ↔ id ∈ required.ids := by
  have answered : (Engine.mk (.sqlite oneArchive) {}).search (Request.withQuery {} "")
      { skipPagination := true } = .ok ⟨[1], 1⟩ := by decide +kernel
  have token : Query.IsTagToken "artist:jane".toList :=
    ⟨⟨.required, "artist".toList, "jane".toList⟩, by decide +kernel⟩
  have read : Query.parse "artist:jane" = { tags := [⟨"artist", "jane%", .required⟩] } := by
    decide +kernel
  have present : oneArchive.missing = [] := rfl
  rcases tag_filter_forms_agree_iff {} {} { skipPagination := true } present
      Database.reachable_oneArchive.keyed rfl token read rfl (by decide +kernel) answered with
      ⟨required, excluded, optional, foundRequired, foundExcluded, foundOptional, agree, _⟩
  refine ⟨_, required, excluded, optional, answered, foundRequired, foundExcluded, foundOptional,
    agree.mpr ?_⟩
  intro id inEvery
  rw [List.mem_singleton.mp inEvery]
  decide +kernel

/-- The forms of the name that is shown disagree in both ways. -/
theorem oneArchive_forms_disagree :
    oneArchive.missing = [] ∧ oneArchive.store.Keyed ∧
      Query.IsTagToken "artist:foo".toList ∧
      Query.parse "artist:foo" = { tags := [⟨"artist", "foo%", .required⟩] } ∧
      ∃ every required excluded optional,
        (Engine.mk (.sqlite oneArchive) {}).search (Request.withQuery {} "")
          { skipPagination := true } = .ok every ∧
        (Engine.mk (.sqlite oneArchive) {}).search (Request.withQuery {} "artist:foo")
          { skipPagination := true } = .ok required ∧
        (Engine.mk (.sqlite oneArchive) {}).search (Request.withQuery {} "-artist:foo")
          { skipPagination := true } = .ok excluded ∧
        (Engine.mk (.sqlite oneArchive) {}).search (Request.withQuery {} "~artist:foo")
          { skipPagination := true } = .ok optional ∧
        ¬ (∀ id, id ∈ excluded.ids ↔ id ∈ every.ids ∧ id ∉ required.ids) ∧
        ¬ ∀ id, id ∈ optional.ids ↔ id ∈ required.ids := by
  refine ⟨rfl, Database.reachable_oneArchive.keyed,
    ⟨⟨.required, "artist".toList, "foo".toList⟩, by decide +kernel⟩,
    by decide +kernel, ⟨[1], 1⟩, ⟨[], 0⟩, ⟨[], 0⟩, ⟨[1], 1⟩, by decide +kernel, by decide +kernel,
    by decide +kernel, by decide +kernel, fun agree => ?_, fun agree => ?_⟩
  · cases (agree 1).mpr ⟨List.mem_cons_self, List.not_mem_nil⟩
  · cases (agree 1).mp List.mem_cons_self

end Search
end Gallery
