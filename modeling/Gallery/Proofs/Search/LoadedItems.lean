import Gallery.Proofs.Search.Loading
import Gallery.Proofs.Search.Ranking
import Gallery.Proofs.Store.LinkedTags
import Gallery.Proofs.Store.Reachable

namespace Gallery

open Std (TransCmp)
open Text (compareText)

/-!
# The items that are loaded

Whatever ids are asked for, in whatever order, loading answers.  An id that stands in the
order gives an item if it is asked for and there is an archive with it, and only where it
stands first.  Deleted archives are no exception, they are only marked.

An item carries the tags of its archive as the links have them, all of them and each
once.  The text between the database and the item keeps them as they are, and so their
order is that of the statement: by the time of the link, and by the id among tags that
were linked at one time.  Since no tag is linked twice, nothing is left open.
-/

/-! ## Tags in the order of their links -/

namespace Store

instance : TransCmp compareLinked := by
  have time := Text.transCmp_on compareText fun linked : String × Listing.Tag => linked.1
  have id := Text.transCmp_on (compare : Int → Int → Ordering)
    fun linked : String × Listing.Tag => linked.2.id.toInt
  exact Text.transCmp_then _ _

/-- The tags that are linked to an archive, with the times of their links: all of them, each once,
by time, and by id where the times are the same. -/
structure AreLinked (store : Store) (archive : Int64) (linked : List (String × Listing.Tag)) :
    Prop where
  complete : ∀ time tag, (time, tag) ∈ linked ↔
    tag ∈ store.tags ∧ (⟨archive, tag.id, time⟩ : Link) ∈ store.links
  once : (linked.map Prod.snd).Nodup
  ordered : linked.Pairwise fun first second =>
    compareText first.1 second.1 = .lt ∨ (first.1 = second.1 ∧ first.2.id < second.2.id)

/-- The tags of an archive with the times of their links, sorted. -/
def orderedLinks (store : Store) (archive : Int64) : List (String × Listing.Tag) :=
  (store.linkedTags archive).mergeSort fun a b => (compareLinked a b).isLE

theorem areLinked_orderedLinks {store : Store} (keyed : store.Keyed) (archive : Int64) :
    store.AreLinked archive (store.orderedLinks archive) := by
  have sorted : (store.orderedLinks archive).Perm (store.linkedTags archive) :=
    List.mergeSort_perm _ _
  have once : ((store.orderedLinks archive).map Prod.snd).Nodup :=
    (sorted.map Prod.snd).nodup_iff.mpr (nodup_linkedTags keyed)
  constructor
  case once => exact once
  case complete =>
    intro time tag
    rw [sorted.mem_iff, mem_linkedTags_iff]
    constructor
    · rintro ⟨link, inLinks, rfl, rfl, inTags, leads⟩
      refine ⟨inTags, ?_⟩
      rw [leads]
      exact inLinks
    · rintro ⟨inTags, inLinks⟩
      exact ⟨_, inLinks, rfl, rfl, inTags, rfl⟩
  case ordered =>
    have inTags : ∀ linked ∈ store.orderedLinks archive, linked.2 ∈ store.tags := by
      intro linked member
      rcases mem_linkedTags_iff.mp (sorted.mem_iff.mp member) with ⟨_, _, _, _, inTags, _⟩
      exact inTags
    have weakly : (store.orderedLinks archive).Pairwise fun a b =>
        (compareLinked a b).isLE = true := pairwise_mergeSort_isLE compareLinked _
    refine (weakly.and (List.pairwise_map.mp once)).imp_of_mem ?_
    rintro first second inFirst inSecond ⟨before, different⟩
    have ids : first.2.id ≠ second.2.id := fun same =>
      different (eq_of_unique_key keyed.tags (inTags first inFirst) (inTags second inSecond) same)
    cases times : compareText first.1 second.1 with
    | lt => exact Or.inl rfl
    | eq =>
        refine Or.inr ⟨Text.eq_of_compareText times, ?_⟩
        have below : first.2.id.toInt ≤ second.2.id.toInt := by
          rw [compareLinked, times, Ordering.eq_then, Int.isLE_compare] at before
          exact before
        exact Int64.lt_iff_toInt_lt.mpr
          (Int.lt_iff_le_and_ne.mpr ⟨below, fun same => ids (Int64.toInt_inj.mp same)⟩)
    | gt =>
        rw [compareLinked, times] at before
        cases before

/-! ## The ids of the items -/

section Ids

variable {α : Type} {key : α → Int64}

/-- Looking up keys one by one finds those that are there. -/
theorem map_filterMap_find? (rows : List α) (ids : List Int64) :
    (ids.filterMap fun id => rows.find? fun row => key row = id).map key =
      ids.filter fun id => rows.any fun row => key row = id := by
  induction ids with
  | nil => rfl
  | cons id ids inductionHypothesis =>
      rw [List.filterMap_cons, List.filter_cons, ← List.isSome_find?]
      cases found : rows.find? fun row => key row = id with
      | none => exact inductionHypothesis
      | some row =>
          rw [List.map_cons, inductionHypothesis, of_decide_eq_true (List.find?_some found :)]
          rfl

end Ids

theorem any_withIds (store : Store) (ids : List Int64) (id : Int64) :
    ((store.withIds ids).any fun archive => archive.id = id) =
      (ids.contains id && store.hasArchive id) := by
  rw [withIds, List.any_filter, hasArchive, List.and_any_distrib_left]
  refine List.any_congr rfl fun archive => ?_
  by_cases own : archive.id = id
  · rw [own]
  · rw [decide_eq_false own, Bool.and_false, Bool.and_false]

theorem loadedItem_eq (store : Store) (settings : Listing.Settings) (curate : Bool)
    (archive : Archive) :
    store.loadedItem settings curate archive = {
      id := archive.id
      hash := archive.hash
      title := archive.title
      pages := archive.pages
      thumbnail := archive.thumbnail
      deleted := archive.deletedAt.isSome
      tags := (if curate then settings.curate else id)
        ((store.orderedLinks archive.id).map Prod.snd) } := by
  cases curate <;> rfl

end Store

namespace Search

/-- Loading answers with one item for each id that is asked for, stands in the order and belongs to
an archive, deleted or not, in the places where the ids first stand.  An item has the fields of its
archive and all of its tags, in the order of their links or curated. -/
theorem Engine.load_answers {database : Database} (present : database.missing = [])
    (keyed : database.store.Keyed) (site : Config.Site) (ids : List Int64)
    (options : LoadOptions) :
    ∃ items, (Engine.mk (.sqlite database) site).load ids options = .ok items ∧
      items.map Listing.Item.id = ((options.order.getD ids).eraseDups.filter fun id =>
        ids.contains id && database.store.hasArchive id) ∧
      ∀ item ∈ items, ∃ archive ∈ database.store.archives, ∃ linked,
        database.store.AreLinked archive.id linked ∧
        item = {
          id := archive.id
          hash := archive.hash
          title := archive.title
          pages := archive.pages
          thumbnail := archive.thumbnail
          deleted := archive.deletedAt.isSome
          tags := (if options.curate then site.listing.curate else id) (linked.map Prod.snd) } := by
  have unique : ((database.store.withIds ids).map Store.Archive.id).Nodup :=
    keyed.archives.sublist (List.filter_sublist.map Store.Archive.id)
  have own : ∀ archive, (database.store.loadedItem site.listing options.curate archive).id =
      archive.id := fun archive => by rw [Store.loadedItem_eq]
  refine ⟨_, load_of_present present ids options, ?_, ?_⟩
  · have sameId : Listing.Item.id ∘ database.store.loadedItem site.listing options.curate =
        Store.Archive.id := funext own
    rw [Listing.restoreOrder_map own unique, List.map_map, sameId, Store.map_filterMap_find?]
    simp only [Store.any_withIds]
  · intro item member
    rw [Listing.restoreOrder_map own unique] at member
    rcases List.mem_map.mp member with ⟨archive, found, rfl⟩
    rcases List.mem_filterMap.mp found with ⟨id, _, isFound⟩
    have inArchives : archive ∈ database.store.archives :=
      (List.mem_filter.mp (List.mem_of_find?_eq_some isFound)).1
    exact ⟨archive, inArchives, database.store.orderedLinks archive.id,
      Store.areLinked_orderedLinks keyed archive.id, Store.loadedItem_eq _ _ _ _⟩

/-- A tag with characters that a text between quotes cannot hold as they are. -/
def quotedTag : Listing.Tag where
  id := 2
  scope := "a \"part\""
  name := "\\ \x00 😀"
  displayName := some "\n"

/-- A gallery with a deleted archive that has this tag and another one. -/
def deletedArchive : Database :=
  let linked := (Database.oneArchive.run
    (.link 1 quotedTag.scope quotedTag.name quotedTag.displayName "2019-01-01 00:00:00")).2
  (linked.run (.updateArchive 1 .deletedAt (.text "2020-01-01 00:00:00"))).2

theorem reachable_deletedArchive : Database.Reachable deletedArchive := by
  apply Database.Reachable.edited
  · exact .edited _ Database.reachable_oneArchive trivial
  · trivial

/-- The archive is loaded once, is marked as deleted and has the tag as it was written. -/
theorem deletedArchive_is_loaded :
    deletedArchive.missing = [] ∧ deletedArchive.store.Keyed ∧
      ∃ items, (Engine.mk (.sqlite deletedArchive) {}).load [1, 7, 1] { order := some [7, 1, 1] } =
          .ok items ∧
        items.map Listing.Item.id = [1] ∧
        ∀ item ∈ items, item.deleted = true ∧ quotedTag ∈ item.tags := by
  have present : deletedArchive.missing = [] := rfl
  have keyed := reachable_deletedArchive.keyed
  rcases Engine.load_answers present keyed {} [1, 7, 1] { order := some [7, 1, 1] } with
    ⟨items, answered, ids, each⟩
  refine ⟨present, keyed, items, answered, ?_, fun item member => ?_⟩
  · rw [ids]
    decide
  · have only : deletedArchive.store.archives.all (fun archive =>
        archive.id = 1 && archive.deletedAt.isSome) = true := by decide
    have written : quotedTag ∈ deletedArchive.store.tags ∧
        Store.Link.mk 1 2 "2019-01-01 00:00:00" ∈ deletedArchive.store.links := by decide
    rcases each item member with ⟨archive, inArchives, linked, areLinked, rfl⟩
    have isOnly := List.all_eq_true.mp only archive inArchives
    rw [Bool.and_eq_true, decide_eq_true_eq] at isOnly
    rw [isOnly.1] at areLinked
    exact ⟨isOnly.2, List.mem_map.mpr ⟨_, (areLinked.complete _ quotedTag).mpr written, rfl⟩⟩

end Search
end Gallery
