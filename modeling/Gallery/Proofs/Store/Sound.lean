import Gallery.Proofs.Store.Keyed

namespace Gallery
namespace Store

/-!
# Sound stores

The keys of a store do not survive an edit by themselves.  A new tag gets a fresh
id only because no id above the last one is in use, and a new archive gets a row of
its own in the index only because every row there belongs to an archive.  `Sound`
adds what is missing: the bound on ids, the names of tags as a second key, and the
references from one table to another.  One lemma for each operation on stores says
that the operation keeps all of it.
-/

/-- The keys and references of the tables. -/
structure Sound (store : Store) : Prop extends Keyed store where
  tagNames : (store.tags.map fun tag => (tag.scope, tag.name)).Nodup
  lastTag : ∀ tag ∈ store.tags, tag.id ≤ store.lastTag
  linkedArchive : ∀ link ∈ store.links, link.archive ∈ store.archives.map Archive.id
  linkedTag : ∀ link ∈ store.links, link.tag ∈ store.tags.map Listing.Tag.id
  sourced : ∀ source ∈ store.sources, source.archive ∈ store.archives.map Archive.id
  grouped : ∀ member ∈ store.memberships, member.archive ∈ store.archives.map Archive.id
  indexed : ∀ row ∈ store.index, row.id ∈ store.archives.map Archive.id

theorem hasArchive_iff {store : Store} {id : Int64} :
    store.hasArchive id = true ↔ id ∈ store.archives.map Archive.id := by
  simp [hasArchive]

theorem tag?_eq_none_iff {store : Store} {scope name : String} :
    store.tag? scope name = none ↔
      (scope, name) ∉ store.tags.map fun tag => (tag.scope, tag.name) := by
  simp [tag?]

/-- Setting a column leaves the id of an archive. -/
theorem Archive.id_of_set? {archive updated : Archive} {column : Column} {value : Value}
    (set : archive.set? column value = some updated) : updated.id = archive.id := by
  cases column with
  | description | language | releasedAt | deletedAt =>
      cases set
      rfl
  | hash | title | pages | thumbnail | size | createdAt =>
      rcases Option.map_eq_some_iff.mp set with ⟨_, _, rfl⟩
      rfl

/-- A tag that is wanted is there already or gets the next id. -/
theorem exists_of_ensureTag? {store tagged : Store} {scope name : String}
    {displayName : Option String}
    (ensured : store.ensureTag? scope name displayName = some tagged) :
    ∃ id, nextId? store.lastTag = some id ∧
      ((store.tag? scope name ≠ none ∧ tagged = { store with lastTag := id }) ∨
        (store.tag? scope name = none ∧ tagged = { store with
          lastTag := id
          tags := store.tags ++
            [{ id := id, scope := scope, name := name, displayName := displayName }] })) := by
  unfold ensureTag? at ensured
  cases next : nextId? store.lastTag with
  | none =>
      rw [next] at ensured
      cases ensured
  | some id =>
      rw [next] at ensured
      simp only [Option.bind_eq_bind, Option.bind_some] at ensured
      refine ⟨id, rfl, ?_⟩
      split at ensured
      · rename_i taken
        cases ensured
        exact .inl ⟨Option.isSome_iff_ne_none.mp taken, rfl⟩
      · rename_i untaken
        cases ensured
        exact .inr ⟨Option.not_isSome_iff_eq_none.mp untaken, rfl⟩

/-- A link is added for a tag and an archive that are there and not linked yet. -/
theorem exists_of_addLink? {store linked : Store} {archive : Int64} {scope name time : String}
    (added : store.addLink? archive scope name time = some linked) :
    ∃ tag, store.tag? scope name = some tag ∧ store.hasArchive archive = true ∧
      ¬(store.links.any fun link => link.archive = archive && link.tag = tag.id) = true ∧
      linked = reindexTags
        { store with links := store.links ++ [⟨archive, tag.id, time⟩] } archive := by
  unfold addLink? at added
  cases found : store.tag? scope name with
  | none =>
      rw [found] at added
      cases added
  | some tag =>
      rw [found] at added
      simp only [Option.bind_eq_bind, Option.bind_some] at added
      split at added
      · cases added
      split at added
      · cases added
      · rename_i present unlinked
        cases added
        exact ⟨tag, rfl, by simpa using present, unlinked, rfl⟩

/-- A key that is not yet in use can be added. -/
private theorem nodup_map_concat {α β : Type} {key : α → β} {rows : List α} {row : α}
    (unique : (rows.map key).Nodup) (fresh : key row ∉ rows.map key) :
    ((rows ++ [row]).map key).Nodup := by
  rw [List.map_append, List.map_cons, List.map_nil]
  apply List.nodup_append.mpr
  refine ⟨unique, List.nodup_singleton _, ?_⟩
  intro used member other isNew same
  rw [List.mem_singleton.mp isNew] at same
  exact fresh (same ▸ member)

private theorem nodup_map_filter {α β : Type} {key : α → β} {rows : List α} (keeps : α → Bool)
    (unique : (rows.map key).Nodup) : ((rows.filter keeps).map key).Nodup :=
  unique.sublist (List.filter_sublist.map key)

namespace Sound

variable {store : Store}

/-- An edit of other columns than the keys leaves a store sound. -/
theorem of_same_ids {archives : List Archive} {index : List IndexRow} (sound : store.Sound)
    (sameArchives : archives.map Archive.id = store.archives.map Archive.id)
    (sameIndex : index.map IndexRow.id = store.index.map IndexRow.id) :
    Sound { store with archives := archives, index := index } where
  archives := sameArchives ▸ sound.archives
  tags := sound.tags
  links := sound.links
  index := sameIndex ▸ sound.index
  tagNames := sound.tagNames
  lastTag := sound.lastTag
  linkedArchive := by
    intro link member
    exact sameArchives ▸ sound.linkedArchive link member
  linkedTag := sound.linkedTag
  sourced := by
    intro source member
    exact sameArchives ▸ sound.sourced source member
  grouped := by
    intro member inSeries
    exact sameArchives ▸ sound.grouped member inSeries
  indexed := by
    intro row member
    rw [sameArchives]
    have inOld : row.id ∈ store.index.map IndexRow.id :=
      sameIndex ▸ List.mem_map_of_mem member
    rcases List.mem_map.mp inOld with ⟨old, oldMember, sameId⟩
    rw [← sameId]
    exact sound.indexed old oldMember

/-! ## The index -/

theorem reindexTexts (sound : store.Sound) (archive : Archive) :
    (store.reindexTexts archive).Sound := by
  apply sound.of_same_ids rfl
  rw [List.map_map]
  apply List.map_congr_left
  intro row _
  simp only [Function.comp_apply]
  split <;> rfl

theorem reindexTags (sound : store.Sound) (archive : Int64) :
    (store.reindexTags archive).Sound := by
  apply sound.of_same_ids rfl
  rw [List.map_map]
  apply List.map_congr_left
  intro row _
  simp only [Function.comp_apply]
  split <;> rfl

/-! ## Archives -/

theorem addArchive {id : Int64} (sound : store.Sound) (fresh : store.hasArchive id = false)
    (details : Details) : (store.addArchive id details).Sound := by
  have unused : id ∉ store.archives.map Archive.id := by
    rw [← hasArchive_iff, fresh]
    exact Bool.false_ne_true
  have kept : ∀ other ∈ store.archives.map Archive.id,
      other ∈ (store.addArchive id details).archives.map Archive.id := by
    intro other member
    simp only [Store.addArchive, List.map_append]
    exact List.mem_append_left _ member
  refine {
    sound with
    archives := nodup_map_concat sound.archives unused
    index := nodup_map_concat sound.index ?_
    linkedArchive := fun link member => kept _ (sound.linkedArchive link member)
    sourced := fun source member => kept _ (sound.sourced source member)
    grouped := fun member inSeries => kept _ (sound.grouped member inSeries)
    indexed := ?_ }
  · intro member
    rcases List.mem_map.mp member with ⟨row, rowMember, sameId⟩
    have isNew : row.id = id := sameId
    exact unused (isNew ▸ sound.indexed row rowMember)
  · intro row member
    rcases List.mem_append.mp member with old | new
    · exact kept _ (sound.indexed row old)
    · rw [List.mem_singleton.mp new]
      simp [Store.addArchive, IndexRow.ofArchive]

theorem removeArchive (sound : store.Sound) (id : Int64) : (store.removeArchive id).Sound := by
  -- What refers to another archive still does.
  have kept : ∀ other ∈ store.archives.map Archive.id, other ≠ id →
      other ∈ (store.removeArchive id).archives.map Archive.id := by
    intro other member isOther
    rcases List.mem_map.mp member with ⟨archive, archiveMember, sameId⟩
    refine List.mem_map.mpr ⟨archive, List.mem_filter.mpr ⟨archiveMember, ?_⟩, sameId⟩
    exact decide_eq_true (sameId ▸ isOther)
  refine {
    sound with
    archives := nodup_map_filter _ sound.archives
    links := nodup_map_filter _ sound.links
    index := nodup_map_filter _ sound.index
    linkedArchive := ?_
    linkedTag := fun link member => sound.linkedTag link (List.mem_filter.mp member).1
    sourced := ?_
    grouped := ?_
    indexed := ?_ }
  · intro link member
    rcases List.mem_filter.mp member with ⟨old, isOther⟩
    exact kept _ (sound.linkedArchive link old) (of_decide_eq_true isOther)
  · intro source member
    rcases List.mem_filter.mp member with ⟨old, isOther⟩
    exact kept _ (sound.sourced source old) (of_decide_eq_true isOther)
  · intro inSeries member
    rcases List.mem_filter.mp member with ⟨old, isOther⟩
    exact kept _ (sound.grouped inSeries old) (of_decide_eq_true isOther)
  · intro row member
    rcases List.mem_filter.mp member with ⟨old, isOther⟩
    exact kept _ (sound.indexed row old) (of_decide_eq_true isOther)

/-! ## Tags and links -/

/-- A fresh id is above the last one. -/
theorem lt_of_nextId? {last id : Int64} (next : nextId? last = some id) : last < id := by
  unfold nextId? at next
  split at next
  · cases next
  · rename_i notLargest
    cases next
    rw [Int64.lt_iff_toInt_lt, Int64.toInt_add]
    have bound := last.toInt_le
    have lower := last.le_toInt
    have below : last.toInt ≠ Int64.maxValue.toInt := fun same =>
      notLargest (Int64.toInt_inj.mp same)
    rw [Int64.toInt_maxValue] at bound below
    rw [Int64.toInt_one, Int.bmod_eq_of_le (by omega) (by omega)]
    omega

theorem ensureTag {scope name : String} {displayName : Option String} {tagged : Store}
    (sound : store.Sound) (ensured : store.ensureTag? scope name displayName = some tagged) :
    tagged.Sound := by
  obtain ⟨id, next, ⟨_, rfl⟩ | ⟨newName, rfl⟩⟩ := exists_of_ensureTag? ensured
  all_goals
    have above := lt_of_nextId? next
    have bounded : ∀ tag ∈ store.tags, tag.id ≤ id := fun tag member =>
      Int64.le_trans (sound.lastTag tag member) (Int64.le_of_lt above)
  · exact { sound with lastTag := bounded }
  · refine {
      sound with
      tags := nodup_map_concat sound.tags ?_
      tagNames := nodup_map_concat sound.tagNames (tag?_eq_none_iff.mp newName)
      lastTag := ?_
      linkedTag := ?_ }
    · intro member
      rcases List.mem_map.mp member with ⟨tag, tagMember, sameId⟩
      have isNew : tag.id = id := sameId
      exact Int64.lt_irrefl (Int64.lt_of_lt_of_le above (isNew ▸ sound.lastTag tag tagMember))
    · intro tag member
      rcases List.mem_append.mp member with old | new
      · exact bounded tag old
      · rw [List.mem_singleton.mp new]
        exact Int64.le_refl id
    · intro link member
      simp only [List.map_append]
      exact List.mem_append_left _ (sound.linkedTag link member)

theorem addLink {archive : Int64} {scope name time : String} {linked : Store}
    (sound : store.Sound) (added : store.addLink? archive scope name time = some linked) :
    linked.Sound := by
  obtain ⟨tag, found, archived, unlinked, rfl⟩ := exists_of_addLink? added
  apply reindexTags
  refine {
    sound with
    links := nodup_map_concat sound.links ?_
    linkedArchive := ?_
    linkedTag := ?_ }
  · simpa using unlinked
  · intro link member
    rcases List.mem_append.mp member with old | new
    · exact sound.linkedArchive link old
    · rw [List.mem_singleton.mp new]
      exact hasArchive_iff.mp archived
  · intro link member
    rcases List.mem_append.mp member with old | new
    · exact sound.linkedTag link old
    · rw [List.mem_singleton.mp new]
      exact List.mem_map_of_mem (List.mem_of_find?_eq_some found)

theorem removeLink (sound : store.Sound) (link : Link) (archive : Int64) :
    ({ store with links := store.links.filter (· ≠ link) }.reindexTags archive).Sound := by
  apply reindexTags
  exact {
    sound with
    links := nodup_map_filter _ sound.links
    linkedArchive := fun other member => sound.linkedArchive other (List.mem_filter.mp member).1
    linkedTag := fun other member => sound.linkedTag other (List.mem_filter.mp member).1 }

/-- A tag may take a name that no other tag of its namespace has. -/
theorem renameTag {scope name newName : String} (displayName : Option String)
    (sound : store.Sound) (free : newName = name ∨ store.tag? scope newName = none) :
    Sound { store with tags := store.tags.map fun tag =>
      if tag.scope = scope && tag.name = name then
        { tag with name := newName, displayName := displayName }
      else tag } := by
  have sameIds : (store.tags.map fun tag =>
      if tag.scope = scope && tag.name = name then
        { tag with name := newName, displayName := displayName }
      else tag).map Listing.Tag.id = store.tags.map Listing.Tag.id := by
    rw [List.map_map]
    apply List.map_congr_left
    intro tag _
    simp only [Function.comp_apply]
    split <;> rfl
  refine {
    sound with
    tags := sameIds ▸ sound.tags
    tagNames := ?_
    lastTag := ?_
    linkedTag := fun link member => sameIds ▸ sound.linkedTag link member }
  · -- A tag that keeps its name has another one than the tag that is renamed.
    have elsewhere : ∀ tag ∈ store.tags, ¬(tag.scope = scope ∧ tag.name = name) →
        (scope, newName) ≠ (tag.scope, tag.name) := by
      intro tag member isOther same
      rcases Prod.mk.inj same with ⟨sameScope, sameName⟩
      rcases free with unchanged | untaken
      · exact isOther ⟨sameScope.symm, sameName.symm.trans unchanged⟩
      · exact tag?_eq_none_iff.mp untaken (same ▸ List.mem_map_of_mem member)
    rw [List.map_map]
    apply List.pairwise_map.mpr
    apply (List.pairwise_map.mp sound.tagNames).imp_of_mem
    intro first second inFirst inSecond differ
    simp only [Function.comp_apply, Bool.and_eq_true, decide_eq_true_eq]
    split <;> split
    · rename_i isFirst isSecond
      exact absurd (Prod.ext (isFirst.1.trans isSecond.1.symm) (isFirst.2.trans isSecond.2.symm))
        differ
    · rename_i isFirst isOther
      rw [isFirst.1]
      exact elsewhere second inSecond isOther
    · rename_i isOther isSecond
      rw [isSecond.1]
      exact (elsewhere first inFirst isOther).symm
    · exact differ
  · intro tag member
    rcases List.mem_map.mp member with ⟨old, oldMember, renamed⟩
    have bounded := sound.lastTag old oldMember
    rw [← renamed]
    split <;> exact bounded

/-! ## Sources and series -/

theorem addSource {archive : Int64} (sound : store.Sound)
    (present : store.hasArchive archive = true) (id : Nat) (name : String) (url : Option String) :
    Sound { store with
      sources := store.sources ++ [⟨id, archive, name, url⟩]
      lastSource := id } := by
  refine { sound with sourced := ?_ }
  intro source member
  rcases List.mem_append.mp member with old | new
  · exact sound.sourced source old
  · rw [List.mem_singleton.mp new]
    exact hasArchive_iff.mp present

theorem addMembership {archive : Int64} (sound : store.Sound)
    (present : store.hasArchive archive = true) (series : Int64) :
    Sound { store with memberships := store.memberships ++ [⟨series, archive⟩] } := by
  refine { sound with grouped := ?_ }
  intro inSeries member
  rcases List.mem_append.mp member with old | new
  · exact sound.grouped inSeries old
  · rw [List.mem_singleton.mp new]
    exact hasArchive_iff.mp present

end Sound
end Store
end Gallery
