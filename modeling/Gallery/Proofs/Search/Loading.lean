import Gallery.Proofs.Listing.Items
import Gallery.Proofs.Listing.RestoredOrder
import Gallery.Proofs.Search.Listing
import Gallery.Proofs.Store.Keyed

namespace Gallery

/-!
# Loading

Loading looks neither at the order of the ids that it is given nor at whether an archive
is deleted.  It asks for rows, reads an item from each, and puts the items into an order.
No row is lost on the way, since the text of its tags is read back.  So where the ids are
those of an order that are not deleted, what is loaded is that order, without what is
deleted, without what is not there, and without repetitions.
-/

/-! ## Items that are shown -/

namespace Store

/-- The archive with the given id, unless it is deleted. -/
def visible? (store : Store) (id : Int64) : Option Archive :=
  store.archives.find? fun archive => archive.id = id && archive.deletedAt.isNone

/-- The item of an archive. -/
def itemOf (store : Store) (archive : Archive) : Listing.Item where
  id := archive.id
  hash := archive.hash
  title := archive.title
  pages := archive.pages
  thumbnail := archive.thumbnail
  deleted := archive.deletedAt.isSome
  tags := store.orderedTags archive.id

/-- The item of an archive with its tags as a listing shows them. -/
def shownItem (store : Store) (settings : Listing.Settings) (archive : Archive) : Listing.Item :=
  { store.itemOf archive with tags := settings.curate (store.orderedTags archive.id) }

/-- The item of an archive as it is loaded, with its tags as a listing shows them if it is to be
curated. -/
def loadedItem (store : Store) (settings : Listing.Settings) (curate : Bool) (archive : Archive) :
    Listing.Item :=
  if curate then store.shownItem settings archive else store.itemOf archive

/-- The items of the archives that are asked for, as far as they are there and not deleted: each
once, where its id first occurs. -/
def shownItems (store : Store) (settings : Listing.Settings) (ids : List Int64) :
    List Listing.Item :=
  (ids.eraseDups.filterMap store.visible?).map (store.shownItem settings)

section Shown

variable {store : Store} {settings : Listing.Settings} {ids : List Int64}

theorem visible?_eq_some_iff (keyed : store.Keyed) {id : Int64} {archive : Archive} :
    store.visible? id = some archive ↔
      archive ∈ store.archives ∧ archive.id = id ∧ archive.deletedAt = none := by
  constructor
  · intro found
    have isVisible := List.find?_some found
    rw [Bool.and_eq_true, decide_eq_true_eq, Option.isNone_iff_eq_none] at isVisible
    exact ⟨List.mem_of_find?_eq_some found, isVisible⟩
  · rintro ⟨member, rfl, undeleted⟩
    cases found : store.visible? archive.id with
    | none =>
        have hidden := List.find?_eq_none.mp found archive member
        simp only [undeleted, Option.isNone_none, Bool.and_true, decide_true,
          not_true_eq_false] at hidden
    | some other =>
        have isVisible := List.find?_some found
        rw [Bool.and_eq_true, decide_eq_true_eq] at isVisible
        rw [eq_of_unique_key keyed.archives (List.mem_of_find?_eq_some found) member isVisible.1]

/-- Nothing that is shown is deleted. -/
theorem undeleted_of_mem_shownItems (keyed : store.Keyed) {item : Listing.Item}
    (member : item ∈ store.shownItems settings ids) : item.deleted = false := by
  rcases List.mem_map.mp member with ⟨archive, found, rfl⟩
  rcases List.mem_filterMap.mp found with ⟨id, _, isVisible⟩
  change archive.deletedAt.isSome = false
  rw [((visible?_eq_some_iff keyed).mp isVisible).2.2]
  rfl

/-- Ids of archives that are there and not deleted are the ids of their items. -/
theorem ids_shownItems (keyed : store.Keyed) (distinct : ids.Nodup)
    (there : ∀ id ∈ ids, ∃ archive ∈ store.archives, archive.id = id ∧ archive.deletedAt = none) :
    (store.shownItems settings ids).map Listing.Item.id = ids := by
  rw [shownItems, eraseDups_of_nodup distinct, List.map_map]
  clear distinct
  induction ids with
  | nil => rfl
  | cons id ids inductionHypothesis =>
      rcases List.forall_mem_cons.mp there with ⟨⟨archive, member, isOwn, undeleted⟩, others⟩
      rw [List.filterMap_cons_some ((visible?_eq_some_iff keyed).mpr ⟨member, isOwn, undeleted⟩),
        List.map_cons, inductionHypothesis others]
      exact congrArg (· :: ids) isOwn

theorem item?_itemRow (store : Store) (archive : Archive) :
    (store.itemRow archive).item? = some (store.itemOf archive) := by
  rw [Listing.Row.item?, itemRow, Listing.readTags?_tagText]
  rfl

end Shown

end Store

/-! ## What is loaded -/

namespace Search

section Loading

variable {database : Database} {site : Config.Site}

/-- All rows can be read. -/
theorem Engine.mapM_readItem (store : Store) (archives : List Store.Archive) :
    (archives.map store.itemRow).mapM Engine.readItem = .ok (archives.map store.itemOf) := by
  induction archives with
  | nil => rfl
  | cons archive archives inductionHypothesis =>
      rw [List.map_cons, List.mapM_cons, Engine.readItem, Store.item?_itemRow, inductionHypothesis]
      rfl

/-- What is loaded is the archives with the given ids in the given order. -/
theorem Engine.load_of_present (present : database.missing = []) (ids : List Int64)
    (options : LoadOptions) :
    (Engine.mk (.sqlite database) site).load ids options =
      .ok (Listing.restoreOrder
        ((database.store.withIds ids).map (database.store.loadedItem site.listing options.curate))
        (options.order.getD ids)) := by
  have rows : database.itemRows ids =
      .ok ((database.store.withIds ids).map database.store.itemRow) := by
    rw [Database.itemRows, Plan.refusal?_of_present present]
  have shown : ∀ archives : List Store.Archive,
      (if options.curate = true then (archives.map database.store.itemOf).map fun item =>
          { item with tags := site.listing.curate item.tags }
        else archives.map database.store.itemOf) =
      archives.map (database.store.loadedItem site.listing options.curate) := by
    intro archives
    cases options.curate with
    | false => rfl
    | true => exact List.map_map
  cases ids with
  | nil =>
      have none_there : database.store.withIds [] = [] :=
        List.filter_eq_nil_iff.mpr fun _ _ => Bool.false_ne_true
      rw [none_there, List.map_nil, Listing.restoreOrder_nil]
      rfl
  | cons id others =>
      simp only [load, List.isEmpty_cons, Bool.false_eq_true, if_false, Connection.dialect,
        Connection.run_sqlite, rows, bind, Except.bind, mapM_readItem, shown]
      rfl

/-- Where loading is told the archives of an order that are not deleted, it shows the order. -/
theorem Engine.load_visible (present : database.missing = []) (keyed : database.store.Keyed)
    {ids order : List Int64} {options : LoadOptions} (ordered : options.order.getD ids = order)
    (curated : options.curate = true)
    (visible : ∀ archive ∈ database.store.archives, archive.id ∈ order →
      (archive.id ∈ ids ↔ archive.deletedAt = none)) :
    (Engine.mk (.sqlite database) site).load ids options =
      .ok (database.store.shownItems site.listing order) := by
  have unique : ((database.store.withIds ids).map Store.Archive.id).Nodup :=
    keyed.archives.sublist (List.filter_sublist.map Store.Archive.id)
  have found : ∀ id ∈ order, ((database.store.withIds ids).find? fun archive => archive.id = id) =
      database.store.visible? id := by
    intro id member
    refine Option.ext fun archive => ?_
    rw [Store.find?_key_eq_some_iff unique, Store.visible?_eq_some_iff keyed, Store.withIds,
      List.mem_filter, List.contains_iff_mem, and_assoc]
    refine and_congr_right fun inArchives => ?_
    constructor
    · rintro ⟨inIds, rfl⟩
      exact ⟨rfl, (visible archive inArchives member).mp inIds⟩
    · rintro ⟨rfl, undeleted⟩
      exact ⟨(visible archive inArchives member).mpr undeleted, rfl⟩
  have shown : database.store.loadedItem site.listing options.curate =
      database.store.shownItem site.listing := by
    rw [curated]
    rfl
  rw [load_of_present present ids options, ordered, shown,
    Listing.restoreOrder_map (fun _ => rfl) unique, Store.shownItems]
  refine congrArg (fun archives : List Store.Archive =>
    Except.ok (archives.map (database.store.shownItem site.listing))) ?_
  exact List.filterMap_congr fun id member => found id (List.mem_eraseDups.mp member)

end Loading

end Search

end Gallery
