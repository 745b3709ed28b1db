import Gallery.Proofs.Plan.Trial
import Gallery.Proofs.Store.Keyed
import Gallery.Store.Items

namespace Gallery

/-!
# Stores without deleted archives

A deleted archive stays in its table with everything attached to it, and only the
time of its deletion tells it from the others.  `Store.purge` takes all such
archives away, with their links, sources, memberships and index rows.  Tags stay,
since they belong to no archive.

What is asked about an archive is asked by its id.  So the rows that go with a
deleted archive are passed over wherever another archive is asked about, and for
that archive every condition of a plan has the same truth in both stores and is
tried with the same result.
-/

/-! ## Rows that are never met -/

section Rows

variable {α β : Type} {rows : List α} {kept wanted : α → Bool}

theorem any_filter_of_imp (keeps : ∀ row, wanted row = true → kept row = true) :
    (rows.filter kept).any wanted = rows.any wanted := by
  rw [List.any_filter]
  refine congrArg rows.any (funext fun row => ?_)
  cases met : wanted row with
  | false => exact Bool.and_false _
  | true => rw [keeps row met, Bool.and_self]

theorem filter_filter_of_imp (keeps : ∀ row, wanted row = true → kept row = true) :
    (rows.filter kept).filter wanted = rows.filter wanted := by
  rw [List.filter_filter]
  refine List.filter_congr fun row _ => ?_
  cases met : wanted row with
  | false => rfl
  | true => rw [keeps row met, Bool.and_self]

/-- Rows that have nothing to say may be left out. -/
theorem flatMap_filter_of_silent {answers : α → List β}
    (silent : ∀ row, kept row = false → answers row = []) :
    (rows.filter kept).flatMap answers = rows.flatMap answers := by
  induction rows with
  | nil => rfl
  | cons row rest inductionHypothesis =>
      cases stays : kept row with
      | false =>
          rw [List.filter_cons_of_neg (Bool.eq_false_iff.mp stays), List.flatMap_cons,
            silent row stays, List.nil_append, inductionHypothesis]
      | true =>
          rw [List.filter_cons_of_pos stays, List.flatMap_cons, List.flatMap_cons,
            inductionHypothesis]

end Rows

namespace Store

/-- Whether an id is that of a deleted archive. -/
def isDeleted (store : Store) (id : Int64) : Bool :=
  store.archives.any fun archive => archive.id = id && archive.deletedAt.isSome

/-- The store without its deleted archives and all that is attached to them. -/
def purge (store : Store) : Store :=
  { store with
    archives := store.archives.filter fun archive => archive.deletedAt.isNone
    links := store.links.filter fun link => !store.isDeleted link.archive
    sources := store.sources.filter fun source => !store.isDeleted source.archive
    memberships := store.memberships.filter fun member => !store.isDeleted member.archive
    index := store.index.filter fun row => !store.isDeleted row.id }

theorem isDeleted_of_mem {store : Store} (keyed : store.Keyed) {archive : Archive}
    (member : archive ∈ store.archives) :
    store.isDeleted archive.id = archive.deletedAt.isSome :=
  any_key_and keyed.archives member fun other => other.deletedAt.isSome

/-! ## Purging is removing -/

theorem foldl_removeArchive (ids : List Int64) (store : Store) :
    ids.foldl removeArchive store =
      { store with
        archives := store.archives.filter fun archive => !ids.contains archive.id
        links := store.links.filter fun link => !ids.contains link.archive
        sources := store.sources.filter fun source => !ids.contains source.archive
        memberships := store.memberships.filter fun member => !ids.contains member.archive
        index := store.index.filter fun row => !ids.contains row.id } := by
  have split : ∀ (id other : Int64) (others : List Int64), (!(id :: others).contains other) =
      (!others.contains other && decide (other ≠ id)) := by
    intro id other others
    rw [List.contains_cons, Bool.not_or, Bool.and_comm, decide_not, Bool.beq_eq_decide_eq]
  induction ids generalizing store with
  | nil => simp
  | cons id others inductionHypothesis =>
      rw [List.foldl_cons, inductionHypothesis]
      simp only [removeArchive, List.filter_filter, split]

theorem isDeleted_eq_contains {store : Store} (id : Int64) :
    store.isDeleted id = ((store.archives.filter fun archive => archive.deletedAt.isSome).map
      Archive.id).contains id := by
  rw [Bool.eq_iff_iff, isDeleted, List.contains_iff_mem, List.any_eq_true, List.mem_map]
  simp only [List.mem_filter, Bool.and_eq_true, decide_eq_true_eq]
  apply exists_congr
  intro archive
  rw [and_assoc, and_comm (b := archive.id = id)]

/-- What is left is what removing the deleted archives one after the other leaves. -/
theorem purge_eq_foldl_removeArchive {store : Store} (keyed : store.Keyed) :
    store.purge = ((store.archives.filter fun archive => archive.deletedAt.isSome).map
      Archive.id).foldl removeArchive store := by
  have archives : (store.archives.filter fun archive => archive.deletedAt.isNone) =
      store.archives.filter fun archive => !store.isDeleted archive.id := by
    apply List.filter_congr
    intro archive member
    rw [isDeleted_of_mem keyed member, Option.not_isSome]
  rw [foldl_removeArchive, purge, archives]
  simp only [isDeleted_eq_contains]

/-! ## Questions about an archive that is not deleted -/

section Undeleted

variable {store : Store} {id : Int64}

/-- A row that goes with an archive is kept with it. -/
private theorem kept_of_eq (undeleted : store.isDeleted id = false) {other : Int64}
    (same : other = id) : (!store.isDeleted other) = true := by
  rw [same, undeleted]
  rfl

theorem carries_purge (undeleted : store.isDeleted id = false) (wanted : Listing.Tag → Bool) :
    store.purge.carries id wanted = store.carries id wanted :=
  any_filter_of_imp fun _ met =>
    kept_of_eq undeleted (of_decide_eq_true (Bool.and_eq_true_iff.mp met).1)

theorem sourcesOf_purge (undeleted : store.isDeleted id = false) :
    store.purge.sourcesOf id = store.sourcesOf id :=
  filter_filter_of_imp fun _ met => kept_of_eq undeleted (of_decide_eq_true met)

theorem answersWords_purge (undeleted : store.isDeleted id = false) (words : Query.TitleWords) :
    store.purge.answersWords id words = store.answersWords id words := by
  have indexed : ∀ expression, store.purge.indexed id expression = store.indexed id expression :=
    fun _ => any_filter_of_imp fun _ met =>
      kept_of_eq undeleted (of_decide_eq_true (Bool.and_eq_true_iff.mp met).1)
  simp only [answersWords, indexed]

theorem any_memberships_purge (undeleted : store.isDeleted id = false) :
    (store.purge.memberships.any fun member => member.archive = id) =
      store.memberships.any fun member => member.archive = id :=
  any_filter_of_imp fun _ met => kept_of_eq undeleted (of_decide_eq_true met)

theorem any_links_purge (undeleted : store.isDeleted id = false) :
    (store.purge.links.any fun link => link.archive = id) =
      store.links.any fun link => link.archive = id :=
  any_filter_of_imp fun _ met => kept_of_eq undeleted (of_decide_eq_true met)

theorem filter_links_purge (undeleted : store.isDeleted id = false) (wanted : Link → Bool) :
    (store.purge.links.filter fun link => link.archive = id && wanted link) =
      store.links.filter fun link => link.archive = id && wanted link :=
  filter_filter_of_imp fun _ met =>
    kept_of_eq undeleted (of_decide_eq_true (Bool.and_eq_true_iff.mp met).1)

theorem linkedTags_purge (undeleted : store.isDeleted id = false) :
    store.purge.linkedTags id = store.linkedTags id := by
  apply flatMap_filter_of_silent
  intro link dropped
  refine if_neg fun same => ?_
  rw [kept_of_eq undeleted same] at dropped
  cases dropped

theorem itemRow_purge {archive : Archive} (undeleted : store.isDeleted archive.id = false) :
    store.purge.itemRow archive = store.itemRow archive := by
  simp only [itemRow, orderedTags, linkedTags_purge undeleted]

end Undeleted

/-- Ids of archives that are not deleted lead to the same archives. -/
theorem withIds_purge {store : Store} (keyed : store.Keyed) {ids : List Int64}
    (shown : ∀ id ∈ ids, store.isDeleted id = false) :
    store.purge.withIds ids = store.withIds ids := by
  rw [withIds, purge, List.filter_filter, withIds]
  apply List.filter_congr
  intro archive member
  cases wanted : ids.contains archive.id with
  | false => rfl
  | true =>
      have kept := shown archive.id (List.contains_iff_mem.mp wanted)
      rw [isDeleted_of_mem keyed member, Option.isSome_eq_false_iff] at kept
      exact kept

end Store

/-- The database with the store without deleted archives. -/
def Database.purge (database : Database) : Database :=
  { database with store := database.store.purge }

namespace Plan

open Store (Archive)

section Undeleted

variable {store : Store} {archive : Archive}

theorem Condition.holds_purge (undeleted : store.isDeleted archive.id = false)
    (condition : Condition) :
    condition.holds store.purge archive = condition.holds store archive := by
  cases condition with
  | hasTag scope pattern => exact Store.carries_purge undeleted _
  | fullText words => exact Store.answersWords_purge undeleted words
  | anySourceName _ | anySourceUrl _ => simp only [holds, Store.sourcesOf_purge undeleted]
  | inSeries => exact Store.any_memberships_purge undeleted
  | idIn _ | idNotIn _ | compare _ _ _ | language _ | visible => rfl

theorem Condition.attempt_purge (undeleted : store.isDeleted archive.id = false)
    (condition : Condition) :
    condition.attempt store.purge archive = condition.attempt store archive := by
  have holds := condition.holds_purge undeleted
  cases condition with
  | hasTag scope pattern =>
      simp only [attempt, holds, Store.any_links_purge undeleted]
      rfl
  | anySourceName _ | anySourceUrl _ => simp only [attempt, Store.sourcesOf_purge undeleted]
  | fullText _ | idIn _ | idNotIn _ | compare _ _ _ | language _ | inSeries | visible =>
      simp only [attempt, holds]

theorem tryAll_purge (undeleted : store.isDeleted archive.id = false)
    (conditions : List Condition) :
    tryAll store.purge archive conditions = tryAll store archive conditions :=
  tryAll_congr fun condition _ => condition.attempt_purge undeleted

theorem Having.holds_purge (undeleted : store.isDeleted archive.id = false)
    (joins : List CountJoin) (having : Having) :
    having.holds store.purge joins archive = having.holds store joins archive := by
  have counted : having.target.count store.purge joins archive.id =
      having.target.count store joins archive.id := by
    cases having.target with
    | tags =>
        have all := Store.filter_links_purge undeleted fun _ => true
        simp only [Bool.and_true] at all
        rw [Target.count, Target.count, all]
    | sources => rw [Target.count, Target.count, Store.sourcesOf_purge undeleted]
    | tagsIn label =>
        cases found : scopeOf joins label with
        | none => simp only [Target.count, found]
        | some scope =>
            simp only [Target.count, found]
            exact congrArg List.length (Store.filter_links_purge undeleted fun link =>
              store.tags.any fun tag => tag.id = link.tag && tag.scope = scope)
  rw [Having.holds, Having.holds, counted]

end Undeleted

end Plan
end Gallery
