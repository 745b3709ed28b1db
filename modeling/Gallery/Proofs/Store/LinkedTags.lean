import Gallery.Proofs.Store.Changes

namespace Gallery
namespace Store

/-!
# The tags of an archive and how edits change them

The tags of an archive are found in two ways.  Loading an item joins the links with
the tags; the text of the index takes the tags to which some link leads.  Keys make
the two agree up to the order: no link is stored twice, and no id belongs to two tags.

An edit changes the tags of one archive at most, unless it renames a tag.  Adding and
removing archives does not touch the tags of the others, and a tag that has just been
created is not linked to anything, because its id is above all that are in use.
-/

/-- The names of the tags that are linked to an archive. -/
def namesOf (store : Store) (archive : Int64) : List String :=
  (store.linkedTags archive).map fun linked => linked.2.name

theorem namesOf_congr {store other : Store} {archive : Int64}
    (same : other.linkedTags archive = store.linkedTags archive) :
    other.namesOf archive = store.namesOf archive := by
  unfold namesOf
  rw [same]

/-- The tags of one link. -/
private def leadsTo (tags : List Listing.Tag) (archive : Int64) (link : Link) :
    List (String × Listing.Tag) :=
  if link.archive = archive then
    (tags.filter fun tag => tag.id = link.tag).map fun tag => (link.time, tag)
  else []

private theorem linkedTags_eq (store : Store) (archive : Int64) :
    store.linkedTags archive = store.links.flatMap (leadsTo store.tags archive) := rfl

private theorem leadsTo_of_ne {tags : List Listing.Tag} {archive : Int64} {link : Link}
    (other : link.archive ≠ archive) : leadsTo tags archive link = [] :=
  if_neg other

/-! ## Two ways to the tags -/

section Ways

variable {store : Store} {archive : Int64}

theorem mem_linkedTags_iff {linked : String × Listing.Tag} :
    linked ∈ store.linkedTags archive ↔
      ∃ link ∈ store.links, link.archive = archive ∧ link.time = linked.1 ∧
        linked.2 ∈ store.tags ∧ linked.2.id = link.tag := by
  rw [linkedTags_eq, List.mem_flatMap]
  apply exists_congr
  intro link
  apply and_congr_right
  intro _
  unfold leadsTo
  split
  · rename_i own
    simp only [List.mem_map, List.mem_filter, decide_eq_true_eq, own, true_and]
    constructor
    · rintro ⟨tag, ⟨member, sameId⟩, rfl⟩
      exact ⟨rfl, member, sameId⟩
    · rintro ⟨sameTime, member, sameId⟩
      exact ⟨linked.2, ⟨member, sameId⟩, Prod.ext sameTime rfl⟩
  · rename_i other
    simp [other]

theorem mem_tagsOf_iff {tag : Listing.Tag} :
    tag ∈ store.tagsOf archive ↔
      tag ∈ store.tags ∧ ∃ link ∈ store.links, link.archive = archive ∧ link.tag = tag.id := by
  simp [tagsOf]

theorem nodup_tagsOf (keyed : store.Keyed) : (store.tagsOf archive).Nodup := by
  unfold tagsOf
  rw [(List.mergeSort_perm _ _).nodup_iff]
  exact keyed.tags.of_map.filter _

theorem nodup_linkedTags (keyed : store.Keyed) :
    ((store.linkedTags archive).map Prod.snd).Nodup := by
  have tagsOnce : store.tags.Nodup := keyed.tags.of_map
  rw [linkedTags_eq, List.map_flatMap, List.nodup_flatMap]
  constructor
  · intro link _
    unfold leadsTo
    split
    · rw [List.map_map]
      exact (tagsOnce.filter _).map fun _ _ same => same
    · exact List.nodup_nil
  · apply (List.pairwise_map.mp keyed.links).imp
    intro first second differ tag inFirst inSecond
    -- A tag to which both links lead would make them the same link.
    have leads : ∀ link : Link, tag ∈ (leadsTo store.tags archive link).map Prod.snd →
        (link.archive, link.tag) = (archive, tag.id) := by
      intro link member
      unfold leadsTo at member
      split at member
      · rename_i own
        simp only [List.map_map, List.mem_map, List.mem_filter, decide_eq_true_eq,
          Function.comp_apply] at member
        rcases member with ⟨found, ⟨_, sameId⟩, rfl⟩
        rw [own, sameId]
      · cases member
    exact differ ((leads first inFirst).trans (leads second inSecond).symm)

/-- Both ways lead to the same tags. -/
theorem linkedTags_perm_tagsOf (keyed : store.Keyed) :
    ((store.linkedTags archive).map Prod.snd).Perm (store.tagsOf archive) := by
  apply (List.perm_ext_iff_of_nodup (nodup_linkedTags keyed) (nodup_tagsOf keyed)).mpr
  intro tag
  rw [mem_tagsOf_iff, List.mem_map]
  constructor
  · rintro ⟨linked, member, rfl⟩
    obtain ⟨link, inLinks, own, _, inTags, sameId⟩ := mem_linkedTags_iff.mp member
    exact ⟨inTags, link, inLinks, own, sameId.symm⟩
  · rintro ⟨inTags, link, inLinks, own, sameId⟩
    exact ⟨(link.time, tag), mem_linkedTags_iff.mpr
      ⟨link, inLinks, own, rfl, inTags, sameId.symm⟩, rfl⟩

/-- The names that the index is given are those of the linked tags. -/
theorem names_tagsOf_perm (keyed : store.Keyed) :
    ((store.tagsOf archive).map Listing.Tag.name).Perm (store.namesOf archive) := by
  have names : store.namesOf archive =
      ((store.linkedTags archive).map Prod.snd).map Listing.Tag.name := by
    rw [List.map_map]
    rfl
  rw [names]
  exact (linkedTags_perm_tagsOf keyed).symm.map _

end Ways

/-! ## Edits -/

section Edits

variable {store : Store} {id : Int64}

theorem linkedTags_removeArchive {removed : Int64} (other : id ≠ removed) :
    (store.removeArchive removed).linkedTags id = store.linkedTags id := by
  apply flatMap_filter_of_silent
  intro link dropped
  apply leadsTo_of_ne
  intro own
  simp only [own, ne_eq, decide_not, Bool.not_eq_false', decide_eq_true_eq] at dropped
  exact other dropped

/-- A new tag is not linked to anything. -/
theorem linkedTags_ensureTag {scope name : String} {displayName : Option String} {tagged : Store}
    (sound : store.Sound) (ensured : store.ensureTag? scope name displayName = some tagged) :
    tagged.linkedTags id = store.linkedTags id := by
  obtain ⟨fresh, next, ⟨_, rfl⟩ | ⟨_, rfl⟩⟩ := exists_of_ensureTag? ensured
  · rfl
  · rw [linkedTags_eq, linkedTags_eq]
    apply List.flatMap_congr
    intro link member
    obtain ⟨tag, inTags, sameId⟩ := List.mem_map.mp (sound.linkedTag link member)
    have unlinked : ¬fresh = link.tag := by
      intro same
      apply Int64.lt_irrefl (Int64.lt_of_lt_of_le (Sound.lt_of_nextId? next) _)
      rw [same, ← sameId]
      exact sound.lastTag tag inTags
    simp [leadsTo, unlinked]

/-- A new link gives a tag to its own archive only. -/
theorem linkedTags_addLink {archive : Int64} {scope name time : String} {linked : Store}
    (added : store.addLink? archive scope name time = some linked) (other : id ≠ archive) :
    linked.linkedTags id = store.linkedTags id := by
  obtain ⟨tag, _, _, _, rfl⟩ := exists_of_addLink? added
  have silent : leadsTo store.tags id ⟨archive, tag.id, time⟩ = [] := leadsTo_of_ne other.symm
  rw [linkedTags_eq, linkedTags_eq]
  simp [reindexTags, silent]

/-- Without a link, only its own archive lacks a tag. -/
theorem linkedTags_removeLink {archive : Int64} {link : Link} (own : link.archive = archive)
    (other : id ≠ archive) :
    (store.removeLink link archive).linkedTags id = store.linkedTags id := by
  apply flatMap_filter_of_silent
  intro dropped isLink
  apply leadsTo_of_ne
  simp only [ne_eq, decide_not, Bool.not_eq_false', decide_eq_true_eq] at isLink
  rw [isLink, own]
  exact other.symm

theorem id_renamed (scope name newName : String) (displayName : Option String)
    (tag : Listing.Tag) : (renamed scope name newName displayName tag).id = tag.id := by
  unfold renamed
  split <;> rfl

/-- A tag keeps its links under a new name. -/
theorem linkedTags_renamed (scope name newName : String) (displayName : Option String) :
    linkedTags { store with tags := store.tags.map (renamed scope name newName displayName) } id =
      (store.linkedTags id).map (Prod.map (fun time => time)
        (renamed scope name newName displayName)) := by
  rw [linkedTags_eq, linkedTags_eq, List.map_flatMap]
  apply List.flatMap_congr
  intro link _
  unfold leadsTo
  split
  · rw [List.filter_map, List.map_map, List.map_map]
    simp only [Function.comp_def, id_renamed, Prod.map]
  · rfl

end Edits
end Store
end Gallery
