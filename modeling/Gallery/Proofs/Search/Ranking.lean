import Gallery.Proofs.Listing.StableSort
import Gallery.Proofs.Search.Correctness
import Gallery.Proofs.Text.Order

namespace Gallery

open Std (OrientedCmp ReflCmp TransCmp)
open Text (transCmp_on transCmp_then compareNaturally compareNoCase compareText)

/-!
# The ranking of a listing

A listing by title is sorted twice.  The database sorts by the folded title, and
the natural sort that follows keeps what it finds equal in the order in which it
came.  So the folded title decides between titles that are naturally equal, and the
time of creation and the id decide after it.  `Search.compareListed` says this for
all keys as one comparison, and the listing is strictly ordered by it.

Both sorts turn the comparison round for the descending direction and not the list.
The comparison has no ties, so the listing is reversed nevertheless.  Only archives
without a release date stand last in both directions.
-/

namespace Search

open Store (Archive)

/-! ## One comparison for every key -/

/-- The order of two archives by the time of creation, and then by the id. -/
def compareAges (a b : Archive) : Ordering :=
  (compareText a.createdAt b.createdAt).then (compare a.id.toInt b.id.toInt)

/-- The ascending order of two archives by what a key speaks of. -/
def SortKey.compareBy : SortKey → Archive → Archive → Ordering
  | .title, a, b => (compareNaturally a.title b.title).then (compareNoCase a.title b.title)
  | .pages, a, b => compare a.pages.toInt b.pages.toInt
  | .createdAt, _, _ | .random, _, _ => .eq
  | .releasedAt, a, b => compareText (a.releasedAt.getD "") (b.releasedAt.getD "")

/-- The order of two archives in a listing: by the key, then by the time of creation and
then by the id, all in the direction of the listing.  By date of release those without one
come last in either direction. -/
def compareListed (key : SortKey) (direction : Direction) (a b : Archive) : Ordering :=
  (if key = .releasedAt then compare a.releasedAt.isNone b.releasedAt.isNone else .eq).then
    (direction.apply ((key.compareBy a b).then (compareAges a b)))

theorem Direction.apply_then (direction : Direction) (first second : Ordering) :
    direction.apply (first.then second) =
      (direction.apply first).then (direction.apply second) := by
  cases direction with
  | ascending => rfl
  | descending => exact Ordering.swap_then first second

theorem Direction.apply_eq_eq_iff {direction : Direction} {order : Ordering} :
    direction.apply order = .eq ↔ order = .eq := by
  cases direction with
  | ascending => exact Iff.rfl
  | descending => exact Ordering.swap_eq_eq

theorem Direction.transCmp_apply {α : Type} (direction : Direction) (order : α → α → Ordering)
    [ordered : TransCmp order] : TransCmp fun a b => direction.apply (order a b) := by
  cases direction with
  | ascending => exact ordered
  | descending =>
      have turned : (fun a b => Direction.descending.apply (order a b)) = fun a b => order b a :=
        funext fun _ => funext fun _ => OrientedCmp.eq_swap.symm
      rw [turned]
      infer_instance

instance : TransCmp compareAges := by
  have created := transCmp_on compareText fun archive : Archive => archive.createdAt
  have numbered := transCmp_on (compare : Int → Int → Ordering) fun archive : Archive =>
    archive.id.toInt
  exact transCmp_then _ _

instance (key : SortKey) : TransCmp key.compareBy := by
  cases key with
  | title =>
      have natural := transCmp_on compareNaturally fun archive : Archive => archive.title
      have folded := transCmp_on compareNoCase fun archive : Archive => archive.title
      exact transCmp_then (fun a b : Archive => compareNaturally a.title b.title) _
  | pages =>
      exact transCmp_on (compare : Int → Int → Ordering) fun archive : Archive =>
        archive.pages.toInt
  | createdAt | random => exact transCmp_on (compare : Nat → Nat → Ordering) fun _ => 0
  | releasedAt => exact transCmp_on compareText fun archive : Archive => archive.releasedAt.getD ""

instance (key : SortKey) (direction : Direction) : TransCmp (compareListed key direction) := by
  have dated : TransCmp fun a b : Archive =>
      if key = .releasedAt then compare a.releasedAt.isNone b.releasedAt.isNone else .eq := by
    by_cases byDate : key = .releasedAt
    · simp only [if_pos byDate]
      exact transCmp_on (compare : Bool → Bool → Ordering) fun archive : Archive =>
        archive.releasedAt.isNone
    · simp only [if_neg byDate]
      exact transCmp_on (compare : Nat → Nat → Ordering) fun _ => 0
  have aged := transCmp_then key.compareBy compareAges
  have directed := direction.transCmp_apply fun a b => (key.compareBy a b).then (compareAges a b)
  exact transCmp_then _ _

/-- Only an archive and itself are equal in the order of a listing. -/
theorem id_eq_of_compareListed {key : SortKey} {direction : Direction} {a b : Archive}
    (equal : compareListed key direction a b = .eq) : a.id = b.id := by
  rw [compareListed, Ordering.then_eq_eq, Direction.apply_eq_eq_iff, Ordering.then_eq_eq,
    compareAges, Ordering.then_eq_eq] at equal
  exact Int64.toInt_inj.mp (Std.LawfulEqOrd.eq_of_compare equal.2.2.2)

/-! ## What the sorts amount to -/

theorem then_then_self (first later : Ordering) :
    first.then (first.then later) = first.then later := by
  cases first <;> rfl

theorem compareDates_eq (direction : Direction) (a b : Option String) (later : Ordering) :
    (Plan.compareDates direction a b).then (direction.apply later) =
      (compare a.isNone b.isNone).then
        (direction.apply ((compareText (a.getD "") (b.getD "")).then later)) := by
  cases a with
  | none =>
      cases b with
      | none =>
          have same : compareText "" "" = .eq := ReflCmp.compare_self
          simp only [Plan.compareDates, Option.isNone_none, Option.getD_none, same]
          rfl
      | some date => rfl
  | some date =>
      cases b with
      | none => rfl
      | some other => exact (direction.apply_then _ later).symm

/-- The database sorts by the order of a listing unless titles are compared. -/
theorem compareArchives_eq_compareListed {key : SortKey} (direction : Direction)
    (untitled : key ≠ .title) :
    Plan.compareArchives key direction = compareListed key direction := by
  funext a b
  rw [Plan.compareArchives, compareListed, ← Direction.apply_then]
  cases key with
  | title => exact absurd rfl untitled
  | pages => exact (direction.apply_then _ _).symm
  | createdAt | random =>
      calc
        _ = direction.apply (compareAges a b) := by
          rw [compareAges, Direction.apply_then]
          exact then_then_self _ _
        _ = _ := rfl
  | releasedAt => exact compareDates_eq direction a.releasedAt b.releasedAt (compareAges a b)

/-- By title the database sorts by the folded title. -/
theorem compareArchives_title (direction : Direction) :
    Plan.compareArchives .title direction = fun a b =>
      direction.apply ((compareNoCase a.title b.title).then (compareAges a b)) := by
  funext a b
  rw [Plan.compareArchives, ← Direction.apply_then]
  exact (direction.apply_then _ _).symm

instance (direction : Direction) : TransCmp (Plan.compareArchives .title direction) := by
  have folded := transCmp_on compareNoCase fun archive : Archive => archive.title
  have aged := transCmp_then (fun a b : Archive => compareNoCase a.title b.title) compareAges
  rw [compareArchives_title]
  exact direction.transCmp_apply fun a b : Archive =>
    (compareNoCase a.title b.title).then (compareAges a b)

/-- The folded title decides what the natural order leaves equal. -/
theorem then_compareArchives_title (direction : Direction) (a b : Archive) :
    (direction.apply (compareNaturally a.title b.title)).then
        (Plan.compareArchives .title direction a b) =
      compareListed .title direction a b := by
  rw [compareArchives_title, ← Direction.apply_then, ← Ordering.then_assoc]
  rfl

/-! ## The archives of a listing -/

/-- The archives of a listing that is not shuffled, in its order. -/
def rankedArchives (request : Request) (plan : Plan) (store : Store) : List Archive :=
  if request.key = .title then
    (plan.select store).mergeSort fun a b =>
      (request.direction.apply (compareNaturally a.title b.title)).isLE
  else plan.select store

section Ranked

variable {request : Request} {plan : Plan} {store : Store}

theorem rankedArchives_perm :
    (rankedArchives request plan store).Perm (store.archives.filter (plan.holds store)) := by
  rw [rankedArchives]
  split
  · exact (List.mergeSort_perm _ _).trans (plan.select_perm store)
  · exact plan.select_perm store

/-- A listing that is not shuffled has the ids of its archives in their order. -/
theorem arrangedIds_eq_map_rankedArchives
    (unshuffled : request.key = .random → request.seed = none) :
    arrangedIds request plan store = (rankedArchives request plan store).map Archive.id := by
  rw [arrangedIds, arrange, rankedArchives]
  cases key : request.key with
  | title =>
      have sorted : sortNaturally request.direction (plan.rows store) =
          ((plan.select store).mergeSort fun a b =>
            (request.direction.apply (compareNaturally a.title b.title)).isLE).map
              fun archive => (archive.id, archive.title) := by
        rw [sortNaturally, Plan.rows]
        exact (List.map_mergeSort fun _ _ _ _ => by rfl).symm
      simp only [Sql.Dialect.ordersNaturally, Bool.false_eq_true, if_false, if_true, sorted,
        List.map_map]
      rfl
  | random =>
      simp only [unshuffled key, reduceCtorEq, if_false, Plan.rows, List.map_map]
      rfl
  | pages | createdAt | releasedAt =>
      simp only [reduceCtorEq, if_false, Plan.rows, List.map_map]
      rfl

/-- The archives of a listing are sorted by the one comparison. -/
theorem rankedArchives_sorted (key : plan.key = request.key)
    (direction : plan.direction = request.direction) :
    (rankedArchives request plan store).Pairwise
      fun a b => (compareListed request.key request.direction a b).isLE = true := by
  rw [rankedArchives]
  split
  · rename_i titled
    have selected : (plan.select store).Pairwise fun a b =>
        (Plan.compareArchives .title request.direction a b).isLE = true := by
      rw [Plan.select, key, direction, titled]
      exact pairwise_mergeSort_isLE _ _
    have natural := transCmp_on compareNaturally fun archive : Archive => archive.title
    have directed := request.direction.transCmp_apply fun a b : Archive =>
      compareNaturally a.title b.title
    simp only [titled, ← then_compareArchives_title]
    exact pairwise_mergeSort_then _ _ selected
  · rename_i untitled
    rw [Plan.select, key, direction, compareArchives_eq_compareListed _ untitled]
    exact pairwise_mergeSort_isLE _ _

/-- The archives of a listing are strictly sorted, since no two of them are equal. -/
theorem rankedArchives_strict (keyed : store.Keyed) (key : plan.key = request.key)
    (direction : plan.direction = request.direction) :
    (rankedArchives request plan store).Pairwise
      fun a b => compareListed request.key request.direction a b = .lt := by
  have distinct : ((rankedArchives request plan store).map Archive.id).Nodup := by
    rw [(rankedArchives_perm.map Archive.id).nodup_iff]
    exact keyed.archives.sublist (List.filter_sublist.map Archive.id)
  refine List.Pairwise.imp₂ (fun a b before differs => ?_) (rankedArchives_sorted key direction)
    (List.pairwise_map.mp distinct)
  cases compared : compareListed request.key request.direction a b with
  | lt => rfl
  | eq => exact absurd (id_eq_of_compareListed compared) differs
  | gt =>
      rw [compared] at before
      cases before

end Ranked

/-! ## Both directions -/

/-- The request for a listing in a direction. -/
def Request.directed (request : Request) (direction : Direction) : Request :=
  { request with direction := direction }

/-- The comparison is turned round with the direction between archives of which both have
a release date or neither has, and between all archives if dates do not count. -/
theorem compareListed_descending {key : SortKey} {a b : Archive}
    (alike : key = .releasedAt → a.releasedAt.isNone = b.releasedAt.isNone) :
    compareListed key .descending a b = compareListed key .ascending b a := by
  have aged := transCmp_then key.compareBy compareAges
  have turned : (key.compareBy b a).then (compareAges b a) =
      Direction.descending.apply ((key.compareBy a b).then (compareAges a b)) := aged.eq_swap
  rw [compareListed, compareListed, ← turned]
  by_cases dated : key = .releasedAt
  · rw [if_pos dated, if_pos dated, alike dated]
    rfl
  · rw [if_neg dated, if_neg dated]
    rfl

/-- Only one list of the same archives is strictly sorted. -/
theorem eq_of_strict {key : SortKey} {direction : Direction} {first second : List Archive}
    (sortedFirst : first.Pairwise fun a b => compareListed key direction a b = .lt)
    (sortedSecond : second.Pairwise fun a b => compareListed key direction a b = .lt)
    (same : first.Perm second) : first = second := by
  refine List.Perm.eq_of_pairwise (fun a b _ _ before after => ?_) sortedFirst sortedSecond same
  exact absurd after (OrientedCmp.not_lt_of_lt before)

section Directions

variable {store : Store}

/-- The archives of a listing in a direction. -/
def directedArchives (request : Request) (options : Options) (store : Store)
    (direction : Direction) : List Archive :=
  rankedArchives (request.directed direction) (planOf store (request.directed direction) options)
    store

variable (request : Request) (options : Options)

theorem directedArchives_strict (keyed : store.Keyed) (direction : Direction) :
    (directedArchives request options store direction).Pairwise
      fun a b => compareListed request.key direction a b = .lt := by
  have strict : (rankedArchives (request.directed direction)
      (planOf store (request.directed direction) options) store).Pairwise
        fun a b => compareListed (request.directed direction).key
          (request.directed direction).direction a b = .lt :=
    rankedArchives_strict keyed rfl rfl
  exact strict

variable {request options}

theorem directedArchives_perm (direction : Direction) :
    (directedArchives request options store direction).Perm
      (store.archives.filter ((planOf store request options).holds store)) :=
  rankedArchives_perm

theorem directedArchives_perm_ascending (direction : Direction) :
    (directedArchives request options store direction).Perm
      (directedArchives request options store .ascending) :=
  (directedArchives_perm direction).trans (directedArchives_perm .ascending).symm

/-- Turning the direction reverses a listing unless it is by date of release. -/
theorem directedArchives_descending (keyed : store.Keyed) (undated : request.key ≠ .releasedAt) :
    directedArchives request options store .descending =
      (directedArchives request options store .ascending).reverse := by
  apply eq_of_strict (directedArchives_strict request options keyed .descending)
  · rw [List.pairwise_reverse]
    refine (directedArchives_strict request options keyed .ascending).imp fun {a b} before => ?_
    rwa [compareListed_descending fun dated => absurd dated undated]
  · exact (directedArchives_perm_ascending .descending).trans (List.reverse_perm _).symm

/-- Turning the direction of a listing by date of release reverses the archives with a date and
those without one, each among themselves. -/
theorem directedArchives_descending_of_dates (keyed : store.Keyed)
    (byDate : request.key = .releasedAt) :
    directedArchives request options store .descending =
      ((directedArchives request options store .ascending).filter (·.releasedAt.isSome)).reverse ++
        ((directedArchives request options store .ascending).filter
          (!·.releasedAt.isSome)).reverse := by
  have ascending := directedArchives_strict request options keyed .ascending
  -- Each part is turned round as a whole, because its archives are alike.
  have turned : ∀ part : Archive → Bool,
      (∀ a b, part a = true → part b = true → a.releasedAt.isNone = b.releasedAt.isNone) →
      ((directedArchives request options store .ascending).filter part).reverse.Pairwise
        fun a b => compareListed request.key .descending a b = .lt := by
    intro part alike
    rw [List.pairwise_reverse]
    refine (ascending.filter part).imp_of_mem fun {a b} inA inB before => ?_
    rwa [compareListed_descending fun _ =>
      alike b a (List.mem_filter.mp inB).2 (List.mem_filter.mp inA).2]
  apply eq_of_strict (directedArchives_strict request options keyed .descending)
  · refine List.pairwise_append.mpr ⟨turned _ ?_, turned _ ?_, ?_⟩
    · intro a b datedA datedB
      rw [← Option.not_isSome, ← Option.not_isSome, datedA, datedB]
    · intro a b undatedA undatedB
      rw [← Option.not_isSome, ← Option.not_isSome, undatedA, undatedB]
    · intro a inDated b inUndated
      have dated := (List.mem_filter.mp (List.mem_reverse.mp inDated)).2
      have undated := (List.mem_filter.mp (List.mem_reverse.mp inUndated)).2
      rw [compareListed, if_pos byDate, ← Option.not_isSome, ← Option.not_isSome, undated, dated]
      rfl
  · refine (directedArchives_perm_ascending .descending).trans ?_
    refine (List.filter_append_perm (·.releasedAt.isSome) _).symm.trans ?_
    exact (List.reverse_perm _).symm.append (List.reverse_perm _).symm

end Directions

/-- The result with its ids in another order. -/
def Result.turned (turn : List Int64 → List Int64) (result : Result) : Result :=
  { result with ids := turn result.ids }

/-- The ids with those that satisfy a condition turned round and put first, and the others
turned round behind them. -/
def reverseWithin (condition : Int64 → Bool) (ids : List Int64) : List Int64 :=
  (ids.filter condition).reverse ++ (ids.filter (!condition ·)).reverse

theorem length_reverseWithin (condition : Int64 → Bool) (ids : List Int64) :
    (reverseWithin condition ids).length = ids.length := by
  rw [reverseWithin, List.length_append, List.length_reverse, List.length_reverse,
    ← List.length_append]
  exact (List.filter_append_perm condition ids).length_eq

/-- Nothing in a search looks at the direction before the rows are put in order. -/
theorem Engine.listing_directed {database : Database} {request : Request} {options : Options}
    (present : database.missing = []) (unshuffled : request.key = .random → request.seed = none)
    (site : Config.Site) (direction : Direction) :
    (Engine.mk (.sqlite database) site).listing (request.directed direction) options =
      if options.allowIds = some [] then .ok []
      else if givesUp database request options then .error (.backend .longPattern)
      else if (resolved database.store request options).optional = some [] then .ok []
      else
        match (planOf database.store request options).refusal? database with
        | some refusal => .error (.backend refusal)
        | none => .ok ((directedArchives request options database.store direction).map
            Archive.id) := by
  have ranked : arrangedIds (request.directed direction)
      (planOf database.store (request.directed direction) options) database.store =
      (directedArchives request options database.store direction).map Archive.id :=
    arrangedIds_eq_map_rankedArchives unshuffled
  rw [← ranked]
  exact Engine.listing_eq_arrangedIds present site (request.directed direction) options

/-- A search in the descending direction returns what the ascending one does, turned round, and
is refused where that is. -/
theorem Engine.search_descending {database : Database} {request : Request} {options : Options}
    (present : database.missing = []) (unshuffled : request.key = .random → request.seed = none)
    (site : Config.Site) (whole : options.skipPagination = true)
    {turn : List Int64 → List Int64} (length : ∀ ids, (turn ids).length = ids.length)
    (turned : (directedArchives request options database.store .descending).map Archive.id =
      turn ((directedArchives request options database.store .ascending).map Archive.id)) :
    (Engine.mk (.sqlite database) site).search (request.directed .descending) options =
      ((Engine.mk (.sqlite database) site).search (request.directed .ascending) options).map
        (Result.turned turn) := by
  have nil : [] = turn [] := (List.eq_nil_of_length_eq_zero (length [])).symm
  have listed : (Engine.mk (.sqlite database) site).listing (request.directed .descending) options =
      ((Engine.mk (.sqlite database) site).listing (request.directed .ascending) options).map
        turn := by
    rw [Engine.listing_directed present unshuffled, Engine.listing_directed present unshuffled]
    split
    · exact congrArg Except.ok nil
    split
    · rfl
    split
    · exact congrArg Except.ok nil
    split
    · rfl
    · exact congrArg Except.ok turned
  rw [Engine.search_eq_listing, Engine.search_eq_listing, listed]
  cases (Engine.mk (.sqlite database) site).listing (request.directed .ascending) options with
  | error error => rfl
  | ok ids => simp only [Except.map, resultOf, whole, if_true, Result.turned, length]

/-! ## The listing as it is returned -/

/-- Whether the archive with an id has a date of release. -/
def hasDate (store : Store) (id : Int64) : Bool :=
  store.archives.any fun archive => archive.id = id && archive.releasedAt.isSome

theorem hasDate_of_mem {store : Store} (keyed : store.Keyed) {archive : Archive}
    (member : archive ∈ store.archives) : hasDate store archive.id = archive.releasedAt.isSome :=
  Store.any_key_and keyed.archives member fun other => other.releasedAt.isSome

/-- By date of release both parts of the listing are turned round. -/
theorem map_directedArchives_of_dates {request : Request} {options : Options} {store : Store}
    (keyed : store.Keyed) (byDate : request.key = .releasedAt) :
    (directedArchives request options store .descending).map Archive.id =
      reverseWithin (hasDate store)
        ((directedArchives request options store .ascending).map Archive.id) := by
  have dated : ∀ archive ∈ directedArchives request options store .ascending,
      hasDate store archive.id = archive.releasedAt.isSome := by
    intro archive member
    have selected := (directedArchives_perm .ascending).mem_iff.mp member
    exact hasDate_of_mem keyed (List.mem_filter.mp selected).1
  rw [directedArchives_descending_of_dates keyed byDate, reverseWithin, List.map_append,
    List.map_reverse, List.map_reverse, List.filter_map, List.filter_map]
  congr 3
  · exact (List.filter_congr dated).symm
  · exact (List.filter_congr fun archive member => congrArg (! ·) (dated archive member)).symm

/-- A listing that is not shuffled is strictly ordered by one total comparison: by its key, then
by the time of creation and then by the id.  The descending listing is the ascending one in
reverse, by date of release within the archives with a date and within those without. -/
theorem listing_is_strictly_ordered {database : Database} (site : Config.Site) (request : Request)
    (options : Options) (present : database.missing = []) (keyed : database.store.Keyed)
    (whole : options.skipPagination = true)
    (unshuffled : request.key = .random → request.seed = none) :
    TransCmp (compareListed request.key request.direction) ∧
    (∀ a ∈ database.store.archives, ∀ b ∈ database.store.archives,
      compareListed request.key request.direction a b = .eq → a = b) ∧
    (∀ result, (Engine.mk (.sqlite database) site).search request options = .ok result →
      ∃ listed : List Archive, result.ids = listed.map Archive.id ∧
        (∀ archive ∈ listed, archive ∈ database.store.archives) ∧
        listed.Pairwise fun a b => compareListed request.key request.direction a b = .lt) ∧
    (WithinLimits database.store request options →
      ∃ result, (Engine.mk (.sqlite database) site).search request options = .ok result) ∧
    (Engine.mk (.sqlite database) site).search (request.directed .descending) options =
      ((Engine.mk (.sqlite database) site).search (request.directed .ascending) options).map
        (Result.turned
          (if request.key = .releasedAt then reverseWithin (hasDate database.store)
            else List.reverse)) := by
  refine ⟨inferInstance, fun a inA b inB equal =>
    Store.eq_of_unique_key keyed.archives inA inB (id_eq_of_compareListed equal),
    fun result answered => ?_, fun within => exists_search present within site, ?_⟩
  · rcases exists_listing_of_search whole answered with ⟨ids, listed, rfl⟩
    rcases Engine.listing_cases present listed with ⟨rfl, _⟩ | ⟨rfl, _⟩
    · exact ⟨[], rfl, List.forall_mem_nil _, List.Pairwise.nil⟩
    · refine ⟨directedArchives request options database.store request.direction,
        arrangedIds_eq_map_rankedArchives unshuffled, fun archive member => ?_,
        directedArchives_strict request options keyed request.direction⟩
      exact (List.mem_filter.mp ((directedArchives_perm request.direction).mem_iff.mp member)).1
  · by_cases byDate : request.key = .releasedAt
    · rw [if_pos byDate]
      exact Engine.search_descending present unshuffled site whole (length_reverseWithin _)
        (map_directedArchives_of_dates keyed byDate)
    · rw [if_neg byDate]
      refine Engine.search_descending present unshuffled site whole
        (fun _ => List.length_reverse) ?_
      rw [directedArchives_descending keyed byDate, List.map_reverse]

/-- A gallery with two archives whose titles are naturally equal: blanks do not count. -/
def twoArchives : Database :=
  (Database.oneArchive.run (.insertArchive none
    { hash := "g", title := "a  tale", createdAt := "2019-01-01 00:00:00" })).2

theorem reachable_twoArchives : Database.Reachable twoArchives :=
  .edited _ Database.reachable_oneArchive trivial

/-- Both directions of the listing by title are returned and strictly ordered, although the
titles are naturally equal. -/
theorem twoArchives_by_title :
    twoArchives.missing = [] ∧ twoArchives.store.Keyed ∧
      (∀ a ∈ twoArchives.store.archives, ∀ b ∈ twoArchives.store.archives,
        compareNaturally a.title b.title = .eq) ∧
      ∃ ascending, (Engine.mk (.sqlite twoArchives) {}).search
          { key := .title, direction := .ascending } { skipPagination := true } = .ok ascending ∧
        (Engine.mk (.sqlite twoArchives) {}).search
          { key := .title, direction := .descending } { skipPagination := true } =
            .ok (ascending.turned List.reverse) ∧
        ∃ listed : List Archive, ascending.ids = listed.map Archive.id ∧
          listed.Pairwise fun a b => compareListed .title .ascending a b = .lt := by
  let request : Request := { key := .title, direction := .ascending }
  have within : WithinLimits twoArchives.store request { skipPagination := true } :=
    withinLimits_of_no_query rfl rfl
  have present : twoArchives.missing = [] := rfl
  have keyed := reachable_twoArchives.keyed
  have ordered := listing_is_strictly_ordered {} request { skipPagination := true } present keyed
    rfl fun shuffled => by cases shuffled
  rcases ordered.2.2.2.1 within with ⟨ascending, answered⟩
  rcases ordered.2.2.1 ascending answered with ⟨listed, isListed, _, strict⟩
  refine ⟨present, keyed, by decide, ascending, answered, ?_, listed, isListed, strict⟩
  have turned := ordered.2.2.2.2
  rw [show request.directed .ascending = request from rfl, answered] at turned
  exact turned

end Search

end Gallery
