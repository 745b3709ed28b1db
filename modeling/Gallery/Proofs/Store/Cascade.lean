import Gallery.Proofs.Store.LinkedTags

namespace Gallery
namespace Store

/-!
# Deleting an archive step by step

An archive is not deleted at a stroke.  When its own row is gone, its links are taken
away one after the other, and each time the index writes down the tags that are left;
at some moment the index also drops the row of the archive.  The order is nobody's
promise, and it does not matter: whatever it is, the store that is left is the one that
`removeArchive` leaves.  Neither does a row that the index keeps for a while show, nor
is one that it has dropped brought back by a link that goes later.
-/

/-- A step of deleting an archive. -/
inductive Cascade where
  /-- A link goes, and the index writes down the tags that are left. -/
  | link (link : Link)
  /-- The index drops the row. -/
  | row
deriving DecidableEq

/-- The store without the row of an archive and without what the index does not know. -/
def dropArchive (store : Store) (id : Int64) : Store :=
  { store with
    archives := store.archives.filter fun archive => archive.id ≠ id
    sources := store.sources.filter fun source => source.archive ≠ id
    memberships := store.memberships.filter fun member => member.archive ≠ id }

/-- Takes a step of deleting an archive. -/
def cascade (id : Int64) (store : Store) : Cascade → Store
  | .link link => store.removeLink link id
  | .row => { store with index := store.index.filter fun row => row.id ≠ id }

/-- The steps that deleting an archive takes, in one order. -/
def cascades (store : Store) (id : Int64) : List Cascade :=
  .row :: (store.links.filter fun link => link.archive = id).map .link

/-! ## What steps change -/

section Steps

variable {id : Int64}

theorem keeps_cascade (store : Store) (step : Cascade) :
    store.cascade id step = { store with
      links := (store.cascade id step).links
      index := (store.cascade id step).index } := by
  cases step <;> rfl

theorem keeps_cascades (steps : List Cascade) (store : Store) :
    steps.foldl (cascade id) store = { store with
      links := (steps.foldl (cascade id) store).links
      index := (steps.foldl (cascade id) store).index } := by
  induction steps generalizing store with
  | nil => rfl
  | cons step rest inductionHypothesis =>
      rw [List.foldl_cons, inductionHypothesis, keeps_cascade store step]

/-- The links that are left are those that no step takes away. -/
theorem links_cascades (steps : List Cascade) (store : Store) :
    (steps.foldl (cascade id) store).links =
      store.links.filter fun link => Cascade.link link ∉ steps := by
  induction steps generalizing store with
  | nil => simp
  | cons step rest inductionHypothesis =>
      rw [List.foldl_cons, inductionHypothesis]
      cases step with
      | row => simp [cascade]
      | link taken =>
          have left : (store.cascade id (.link taken)).links =
              store.links.filter (· ≠ taken) := rfl
          rw [left, List.filter_filter]
          apply List.filter_congr
          intro link _
          by_cases isTaken : link = taken <;> simp [isTaken]

/-- A change to the row of one archive leaves the others. -/
private theorem otherRows_map (rows : List IndexRow) {change : IndexRow → IndexRow}
    (keepsId : ∀ row, (change row).id = row.id) :
    ((rows.map fun row => if row.id = id then change row else row).filter
      fun row => row.id ≠ id) = rows.filter fun row => row.id ≠ id := by
  induction rows with
  | nil => rfl
  | cons row rest inductionHypothesis =>
      rw [List.map_cons]
      by_cases own : row.id = id
      · rw [if_pos own, List.filter_cons_of_neg (by simp [keepsId, own]),
          List.filter_cons_of_neg (by simp [own]), inductionHypothesis]
      · rw [if_neg own, List.filter_cons_of_pos (by simp [own]),
          List.filter_cons_of_pos (by simp [own]), inductionHypothesis]

theorem otherRows_cascades (steps : List Cascade) (store : Store) :
    ((steps.foldl (cascade id) store).index.filter fun row => row.id ≠ id) =
      store.index.filter fun row => row.id ≠ id := by
  induction steps generalizing store with
  | nil => rfl
  | cons step rest inductionHypothesis =>
      rw [List.foldl_cons, inductionHypothesis]
      cases step with
      | row => exact filter_filter_of_imp fun _ other => other
      | link link => exact otherRows_map _ fun _ => rfl

/-- A row that has been dropped does not come back. -/
theorem noRow_cascade {store : Store} (step : Cascade)
    (dropped : ∀ row ∈ store.index, row.id ≠ id) :
    ∀ row ∈ (store.cascade id step).index, row.id ≠ id := by
  intro row member
  cases step with
  | row => exact dropped row (List.mem_filter.mp member).1
  | link link =>
      obtain ⟨old, oldMember, rfl⟩ := List.mem_map.mp member
      have other := dropped old oldMember
      split <;> exact other

theorem noRow_cascades {steps : List Cascade} (store : Store)
    (drops : .row ∈ steps ∨ ∀ row ∈ store.index, row.id ≠ id) :
    ∀ row ∈ (steps.foldl (cascade id) store).index, row.id ≠ id := by
  induction steps generalizing store with
  | nil => exact drops.resolve_left List.not_mem_nil
  | cons step rest inductionHypothesis =>
      apply inductionHypothesis
      rcases drops with now | dropped
      · rcases List.mem_cons.mp now with rfl | later
        · exact .inr fun row member => of_decide_eq_true (List.mem_filter.mp member).2
        · exact .inl later
      · exact .inr (noRow_cascade step dropped)

end Steps

/-- In whatever order the steps are taken, they remove the archive. -/
theorem cascades_eq_removeArchive {store : Store} {id : Int64} {steps : List Cascade}
    (anyOrder : steps.Perm (store.cascades id)) :
    steps.foldl (cascade id) (store.dropArchive id) = store.removeArchive id := by
  have drops : Cascade.row ∈ steps := anyOrder.mem_iff.mpr List.mem_cons_self
  have takes : ∀ link ∈ store.links, Cascade.link link ∈ steps ↔ link.archive = id := by
    intro link member
    rw [anyOrder.mem_iff]
    simp [cascades, member]
  have links : (steps.foldl (cascade id) (store.dropArchive id)).links =
      (store.removeArchive id).links := by
    rw [links_cascades]
    apply List.filter_congr
    intro link member
    simp only [takes link member]
  have index : (steps.foldl (cascade id) (store.dropArchive id)).index =
      (store.removeArchive id).index := by
    calc (steps.foldl (cascade id) (store.dropArchive id)).index
        = (steps.foldl (cascade id) (store.dropArchive id)).index.filter
            fun row => row.id ≠ id := by
          symm
          apply List.filter_eq_self.mpr
          intro row member
          exact decide_eq_true (noRow_cascades _ (.inl drops) row member)
      _ = store.index.filter fun row => row.id ≠ id := otherRows_cascades steps _
  rw [keeps_cascades, links, index]
  rfl

end Store
end Gallery
