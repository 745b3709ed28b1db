import Gallery.Proofs.Store.LinkedTags

namespace Gallery

open Store (Edit Outcome Archive IndexRow Column Value Change)

/-!
# The index follows the data

The index is told about an edit at once, except for one kind: a renamed tag keeps its
old name there until a link of the archive comes or goes.  So the tags in a row of the
index are those of an earlier moment.  A history determines that moment for every
archive, and with it the names that the tags had; it also tells whether a tag of the
archive has been renamed since.

Three facts hold of every database that a history leads to.  The rows have the ids,
titles and descriptions of the archives; their tags are the names of that moment; and
these are the names of today unless a tag has been renamed.  Each is kept by every
change that an edit makes.
-/

/-! ## Histories -/

/-- Whether an edit makes the index write down the tags of an archive. -/
def Store.Edit.writesTags (edit : Edit) (outcome : Outcome) (id : Int64) : Bool :=
  match edit, outcome with
  | .insertArchive _ _, .inserted inserted => inserted = id
  | .link archive _ _ _ _, .done => archive = id
  | .unlink archive _ _, .changed count => archive = id && count ≠ 0
  | _, _ => false

/-- Whether an edit gives another name to a tag that is linked to an archive. -/
def Store.Edit.renamesTagOf (edit : Edit) (outcome : Outcome) (store : Store) (id : Int64) : Bool :=
  match edit, outcome with
  | .renameTag scope name newName _, .changed count =>
      count ≠ 0 && newName ≠ name &&
        (store.linkedTags id).any fun linked => linked.2.scope = scope && linked.2.name = name
  | _, _ => false

namespace Database

/-- The database that edits make of a fresh one; the latest edit comes first. -/
def after : List Edit → Database
  | [] => empty.migrate
  | edit :: earlier => ((after earlier).run edit).2

/-- The names that the tags of an archive had when the index last wrote them down: when
a link of the archive last came or went, or when the archive was inserted. -/
def namesWhenLinked : List Edit → Int64 → List String
  | [], _ => []
  | edit :: earlier, id =>
      if edit.writesTags ((after earlier).run edit).1 id then
        (after (edit :: earlier)).store.namesOf id
      else namesWhenLinked earlier id

/-- Whether a tag of an archive has been renamed since. -/
def renamedSince : List Edit → Int64 → Bool
  | [], _ => false
  | edit :: earlier, id =>
      !edit.writesTags ((after earlier).run edit).1 id &&
        (renamedSince earlier id ||
          edit.renamesTagOf ((after earlier).run edit).1 (after earlier).store id)

end Database

namespace Store

/-! ## What a change tells the index -/

theorem Edit.writesTags_refused (edit : Edit) (id : Int64) :
    edit.writesTags .refused id = false := by
  cases edit <;> rfl

theorem Edit.writesTags_unmet (edit : Edit) (id : Int64) :
    edit.writesTags (.changed 0) id = false := by
  cases edit <;> simp [writesTags]

/-- An id, a title and a description, as an archive has them. -/
def Archive.texts (archive : Archive) : Int64 × String × String :=
  (archive.id, archive.title, archive.description.getD "")

/-- An id, a title and a description, as a row of the index has them. -/
def IndexRow.texts (row : IndexRow) : Int64 × String × String :=
  (row.id, row.title, row.description)

/-- Setting a column that the index does not copy leaves the texts of an archive. -/
theorem Archive.texts_of_set? {archive updated : Archive} {column : Column} {value : Value}
    (set : archive.set? column value = some updated) (uncopied : column.isIndexed = false) :
    updated.texts = archive.texts := by
  cases column with
  | title | description => cases uncopied
  | language | releasedAt | deletedAt =>
      cases set
      rfl
  | hash | pages | thumbnail | size | createdAt =>
      rcases Option.map_eq_some_iff.mp set with ⟨_, _, rfl⟩
      rfl

section Texts

variable {store : Store}

theorem texts_reindexTags (archive : Int64) :
    (store.reindexTags archive).index.map IndexRow.texts = store.index.map IndexRow.texts := by
  unfold reindexTags
  rw [List.map_map]
  apply List.map_congr_left
  intro row _
  simp only [Function.comp_apply]
  split <;> rfl

theorem ensureTag?_keeps {scope name : String} {displayName : Option String} {tagged : Store}
    (ensured : store.ensureTag? scope name displayName = some tagged) :
    tagged.archives = store.archives ∧ tagged.index = store.index := by
  obtain ⟨_, _, ⟨_, rfl⟩ | ⟨_, rfl⟩⟩ := exists_of_ensureTag? ensured <;> exact ⟨rfl, rfl⟩

theorem texts_replaceArchive {id : Int64} {archive updated : Archive}
    (sound : store.Sound) (found : store.archive? id = some archive)
    (same : updated.texts = archive.texts) :
    (store.replaceArchive id updated).archives.map Archive.texts =
      store.archives.map Archive.texts := by
  obtain ⟨member, isWanted⟩ := (find?_key_eq_some_iff sound.archives).mp found
  unfold replaceArchive
  rw [List.map_map]
  apply List.map_congr_left
  intro other otherMember
  simp only [Function.comp_apply]
  split
  · rename_i isReplaced
    rw [same, eq_of_unique_key sound.archives member otherMember (isWanted.trans isReplaced.symm)]
  · rfl

/-- New texts of an archive are copied to its row. -/
theorem texts_reindexTexts {id : Int64} {updated : Archive} (sameId : updated.id = id)
    (told : store.index.map IndexRow.texts = store.archives.map Archive.texts) :
    ((store.replaceArchive id updated).reindexTexts updated).index.map IndexRow.texts =
      (store.replaceArchive id updated).archives.map Archive.texts := by
  let replace : Int64 × String × String → Int64 × String × String := fun texts =>
    if texts.1 = id then updated.texts else texts
  calc ((store.replaceArchive id updated).reindexTexts updated).index.map IndexRow.texts
      = (store.index.map IndexRow.texts).map replace := by
        unfold reindexTexts replaceArchive
        rw [List.map_map, List.map_map]
        apply List.map_congr_left
        intro row _
        simp only [Function.comp_apply, sameId, replace]
        by_cases own : row.id = id <;> simp [IndexRow.texts, Archive.texts, own, sameId]
    _ = (store.archives.map Archive.texts).map replace := by rw [told]
    _ = (store.replaceArchive id updated).archives.map Archive.texts := by
        unfold replaceArchive
        rw [List.map_map, List.map_map]
        apply List.map_congr_left
        intro archive _
        simp only [Function.comp_apply, replace]
        by_cases own : archive.id = id <;> simp [Archive.texts, own]

theorem texts_removeArchive (id : Int64)
    (told : store.index.map IndexRow.texts = store.archives.map Archive.texts) :
    (store.removeArchive id).index.map IndexRow.texts =
      (store.removeArchive id).archives.map Archive.texts := by
  let keeps : Int64 × String × String → Bool := fun texts => texts.1 ≠ id
  calc (store.removeArchive id).index.map IndexRow.texts
      = (store.index.map IndexRow.texts).filter keeps := by
        rw [List.filter_map]
        rfl
    _ = (store.archives.map Archive.texts).filter keeps := by rw [told]
    _ = (store.removeArchive id).archives.map Archive.texts := by
        rw [List.filter_map]
        rfl

/-- Every change leaves the rows with the ids and texts of the archives. -/
theorem Change.texts {edit : Edit} {outcome : Outcome} {store' : Store} (sound : store.Sound)
    (change : Change store edit outcome store')
    (told : store.index.map IndexRow.texts = store.archives.map Archive.texts) :
    store'.index.map IndexRow.texts = store'.archives.map Archive.texts := by
  cases change with
  | refused | unmet | renamed | sourced | grouped | migrated => exact told
  | inserted details fresh =>
      simp only [addArchive, List.map_append, told]
      rfl
  | @updated id column value archive updated found set =>
      have sameId : updated.id = id := (Archive.id_of_set? set).trans
        ((find?_key_eq_some_iff sound.archives).mp found).2
      cases copied : column.isIndexed with
      | true => exact texts_reindexTexts sameId told
      | false =>
          rw [if_neg Bool.false_ne_true]
          exact told.trans (texts_replaceArchive sound found
            (Archive.texts_of_set? set copied)).symm
  | deleted id => exact texts_removeArchive id told
  | tagged archive time ensured =>
      obtain ⟨sameArchives, sameIndex⟩ := ensureTag?_keeps ensured
      rw [sameArchives, sameIndex]
      exact told
  | linked ensured added =>
      obtain ⟨sameArchives, sameIndex⟩ := ensureTag?_keeps ensured
      obtain ⟨tag, _, _, _, rfl⟩ := exists_of_addLink? added
      rw [texts_reindexTags]
      simp only [reindexTags, sameArchives, sameIndex]
      exact told
  | unlinked found =>
      unfold removeLink
      rw [texts_reindexTags]
      exact told

end Texts

/-! ## The tags -/

/-- The names written into the tags of a row, in some order. -/
def IndexRow.Names (row : IndexRow) (names : List String) : Prop :=
  ∃ written : List String, written.Perm names ∧ row.tags = " ".intercalate written

section Tags

variable {store : Store}

/-- A row that has been brought up to date has the names of today; others stay. -/
theorem names_reindexTags {archive : Int64} (keyed : (store.reindexTags archive).Keyed)
    {names : Int64 → List String} (told : ∀ row ∈ store.index, row.Names (names row.id))
    {row : IndexRow} (member : row ∈ (store.reindexTags archive).index) :
    row.Names (if archive = row.id then (store.reindexTags archive).namesOf row.id
      else names row.id) := by
  obtain ⟨old, oldMember, rfl⟩ := List.mem_map.mp member
  by_cases own : old.id = archive
  · simp only [own, if_true]
    exact ⟨_, names_tagsOf_perm keyed, rfl⟩
  · simp only [own, if_false, Ne.symm own]
    exact told old oldMember

/-- No link leads from an archive that is not there yet. -/
theorem namesOf_addArchive {id : Int64} (sound : store.Sound)
    (fresh : store.hasArchive id = false) (details : Details) :
    (store.addArchive id details).namesOf id = [] := by
  have unlinked : store.linkedTags id = [] := by
    apply List.eq_nil_iff_forall_not_mem.mpr
    intro linked member
    obtain ⟨link, inLinks, own, _⟩ := mem_linkedTags_iff.mp member
    have archived := hasArchive_iff.mpr (own ▸ sound.linkedArchive link inLinks)
    rw [fresh] at archived
    cases archived
  exact congrArg (List.map fun linked => linked.2.name) unlinked

/-- Every change leaves the names of the latest writing in the rows. -/
theorem Change.names {edit : Edit} {outcome : Outcome} {store' : Store} (sound : store.Sound)
    (sound' : store'.Sound) (change : Change store edit outcome store')
    {names : Int64 → List String} (told : ∀ row ∈ store.index, row.Names (names row.id)) :
    ∀ row ∈ store'.index, row.Names
      (if edit.writesTags outcome row.id then store'.namesOf row.id else names row.id) := by
  intro row member
  cases change with
  | refused =>
      rw [Edit.writesTags_refused]
      exact told row member
  | unmet =>
      rw [Edit.writesTags_unmet]
      exact told row member
  | renamed | sourced | grouped | migrated => exact told row member
  | @inserted given id details fresh =>
      rcases List.mem_append.mp member with old | new
      · -- The row of another archive is not written.
        have other : ¬id = row.id := by
          intro same
          have archived := hasArchive_iff.mpr (sound.indexed row old)
          rw [← same, fresh] at archived
          cases archived
        simp only [Edit.writesTags, other, decide_false, Bool.false_eq_true, if_false]
        exact told row old
      · rw [List.mem_singleton.mp new]
        simp only [Edit.writesTags, IndexRow.ofArchive, decide_true, if_true]
        rw [namesOf_addArchive sound fresh]
        exact ⟨[], List.Perm.nil, rfl⟩
  | @updated id column value archive updated found set =>
      simp only [Edit.writesTags, Bool.false_eq_true, if_false]
      split at member
      · obtain ⟨old, oldMember, rfl⟩ := List.mem_map.mp member
        have := told old oldMember
        split <;> exact this
      · exact told row member
  | deleted id => exact told row (List.mem_filter.mp member).1
  | tagged archive time ensured =>
      rw [Edit.writesTags_refused]
      rw [(ensureTag?_keeps ensured).2] at member
      exact told row member
  | @linked archive scope name time displayName tagged linked ensured added =>
      obtain ⟨tag, _, _, _, rfl⟩ := exists_of_addLink? added
      simp only [Edit.writesTags, decide_eq_true_eq]
      apply names_reindexTags sound'.toKeyed _ member
      simp only [(ensureTag?_keeps ensured).2]
      exact told
  | @unlinked archive scope name link found =>
      have writes : (Edit.unlink archive scope name).writesTags (.changed 1) row.id =
          decide (archive = row.id) := by simp [Edit.writesTags]
      simp only [writes, decide_eq_true_eq]
      exact names_reindexTags sound'.toKeyed told member

/-! ## Names that are still those of today -/

theorem hasArchive_replaceArchive {id other : Int64} {updated : Archive}
    (sameId : updated.id = id) :
    (store.replaceArchive id updated).hasArchive other = store.hasArchive other := by
  unfold hasArchive replaceArchive
  rw [List.any_map]
  congr 1
  funext archive
  simp only [Function.comp_apply]
  split
  · rename_i isReplaced
    rw [sameId, isReplaced]
  · rfl

/-- An archive that is there after a change was there before, unless its row is new. -/
theorem Change.hasArchive {edit : Edit} {outcome : Outcome} {store' : Store}
    (sound : store.Sound) (change : Change store edit outcome store') {id : Int64}
    (unwritten : edit.writesTags outcome id = false) (archived : store'.hasArchive id = true) :
    store.hasArchive id = true := by
  cases change with
  | refused | unmet | renamed | sourced | grouped | migrated => exact archived
  | @inserted given inserted details fresh =>
      have other : ¬inserted = id := of_decide_eq_false unwritten
      simpa [Store.hasArchive, addArchive, other] using archived
  | @updated updatedId column value archive updated found set =>
      have sameId : updated.id = updatedId := (Archive.id_of_set? set).trans
        ((find?_key_eq_some_iff sound.archives).mp found).2
      rw [← hasArchive_replaceArchive sameId]
      split at archived <;> exact archived
  | deleted removed =>
      obtain ⟨archive, member, isWanted⟩ := List.any_eq_true.mp archived
      exact List.any_eq_true.mpr ⟨archive, (List.mem_filter.mp member).1, isWanted⟩
  | tagged archive time ensured =>
      unfold Store.hasArchive at archived
      rwa [(ensureTag?_keeps ensured).1] at archived
  | linked ensured added =>
      obtain ⟨tag, _, _, _, rfl⟩ := exists_of_addLink? added
      unfold Store.hasArchive reindexTags at archived
      rwa [(ensureTag?_keeps ensured).1] at archived
  | unlinked found => exact archived

/-- The names that tags have after one of them has been renamed, unless it is linked. -/
theorem namesOf_renamed {scope name newName : String} {displayName : Option String} {id : Int64}
    (unrenamed : (Edit.renameTag scope name newName displayName).renamesTagOf (.changed 1)
      store id = false) :
    namesOf { store with tags := store.tags.map (renamed scope name newName displayName) } id =
      store.namesOf id := by
  unfold namesOf
  rw [linkedTags_renamed, List.map_map]
  apply List.map_congr_left
  intro linked member
  simp only [Function.comp_apply, Prod.map, renamed]
  split
  · rename_i isRenamed
    by_contra changes
    have carries : ((store.linkedTags id).any fun linked =>
        linked.2.scope = scope && linked.2.name = name) = true :=
      List.any_eq_true.mpr ⟨linked, member, isRenamed⟩
    have sameName : linked.2.name = name := by
      simp only [Bool.and_eq_true, decide_eq_true_eq] at isRenamed
      exact isRenamed.2
    rw [sameName] at changes
    simp [Edit.renamesTagOf, carries, changes] at unrenamed
  · rfl

/-- A change that neither writes nor renames the tags of an archive leaves their names. -/
theorem Change.namesOf {edit : Edit} {outcome : Outcome} {store' : Store} (sound : store.Sound)
    (change : Change store edit outcome store') {id : Int64}
    (archived : store'.hasArchive id = true) (unwritten : edit.writesTags outcome id = false)
    (unrenamed : edit.renamesTagOf outcome store id = false) :
    store'.namesOf id = store.namesOf id := by
  cases change with
  | refused | unmet | inserted | sourced | grouped | migrated => rfl
  | updated found set => split <;> rfl
  | deleted removed =>
      apply namesOf_congr
      apply linkedTags_removeArchive
      rintro rfl
      simp [Store.hasArchive, removeArchive] at archived
  | tagged archive time ensured => exact namesOf_congr (linkedTags_ensureTag sound ensured)
  | linked ensured added =>
      have other := of_decide_eq_false unwritten
      exact namesOf_congr ((linkedTags_addLink added (Ne.symm other)).trans
        (linkedTags_ensureTag sound ensured))
  | @unlinked archive scope name link found =>
      have other : ¬archive = id := by simpa [Edit.writesTags] using unwritten
      exact namesOf_congr (linkedTags_removeLink (archive_of_link? found) (Ne.symm other))
  | renamed scope name newName displayName => exact namesOf_renamed unrenamed

end Tags
end Store

/-! ## All edits -/

namespace Database

variable {history : List Edit}

theorem missing_after (kept : ∀ edit ∈ history, edit.KeepsTables) :
    (after history).missing = [] := by
  induction history with
  | nil => rfl
  | cons edit earlier inductionHypothesis =>
      have before := inductionHypothesis fun other member =>
        kept other (List.mem_cons_of_mem edit member)
      exact missing_run before (kept edit List.mem_cons_self)

theorem sound_after (kept : ∀ edit ∈ history, edit.KeepsTables) :
    (after history).store.Sound := by
  apply Reachable.sound
  induction history with
  | nil => exact .fresh
  | cons edit earlier inductionHypothesis =>
      refine .edited edit (inductionHypothesis fun other member =>
        kept other (List.mem_cons_of_mem edit member)) ?_
      have keeps := kept edit List.mem_cons_self
      cases edit with
      | dropTable table => exact absurd keeps id
      | _ => trivial

/-- The edit that comes after others makes one of the changes. -/
theorem change_after {edit : Edit} {earlier : List Edit}
    (kept : ∀ other ∈ edit :: earlier, other.KeepsTables) :
    Change (after earlier).store edit ((after earlier).run edit).1
      (after (edit :: earlier)).store :=
  change_run (missing_after fun other member => kept other (List.mem_cons_of_mem edit member))
    (kept edit List.mem_cons_self)

theorem texts_after (kept : ∀ edit ∈ history, edit.KeepsTables) :
    (after history).store.index.map IndexRow.texts =
      (after history).store.archives.map Archive.texts := by
  induction history with
  | nil => rfl
  | cons edit earlier inductionHypothesis =>
      have before := fun other member => kept other (List.mem_cons_of_mem edit member)
      exact (change_after kept).texts (sound_after before) (inductionHypothesis before)

theorem names_after (kept : ∀ edit ∈ history, edit.KeepsTables) :
    ∀ row ∈ (after history).store.index, row.Names (namesWhenLinked history row.id) := by
  induction history with
  | nil =>
      intro row member
      cases member
  | cons edit earlier inductionHypothesis =>
      have before := fun other member => kept other (List.mem_cons_of_mem edit member)
      exact (change_after kept).names (sound_after before) (sound_after kept)
        (inductionHypothesis before)

/-- As long as no tag of an archive is renamed, its tags have the names of the latest
writing. -/
theorem namesWhenLinked_of_unrenamed (kept : ∀ edit ∈ history, edit.KeepsTables) {id : Int64}
    (archived : (after history).store.hasArchive id = true)
    (unrenamed : renamedSince history id = false) :
    namesWhenLinked history id = (after history).store.namesOf id := by
  induction history with
  | nil => cases archived
  | cons edit earlier inductionHypothesis =>
      have before := fun other member => kept other (List.mem_cons_of_mem edit member)
      have change := change_after kept
      unfold namesWhenLinked
      cases writes : edit.writesTags ((after earlier).run edit).1 id with
      | true => rfl
      | false =>
          simp only [renamedSince, writes, Bool.not_false, Bool.true_and,
            Bool.or_eq_false_iff] at unrenamed
          rw [if_neg Bool.false_ne_true,
            change.namesOf (sound_after before) archived writes unrenamed.2]
          exact inductionHypothesis before
            (change.hasArchive (sound_after before) writes archived) unrenamed.1

/-- The index has one row for each archive, with its title and its description; the tags
there are the names that the archive's tags had when they were last written down, which
are their names of today unless one of them has been renamed since. -/
theorem index_follows_the_data (kept : ∀ edit ∈ history, edit.KeepsTables) :
    ((after history).store.archives.map Archive.id).Nodup ∧
      ((after history).store.index.map fun row => (row.id, row.title, row.description)) =
        ((after history).store.archives.map fun archive =>
          (archive.id, archive.title, archive.description.getD "")) ∧
      ∀ row ∈ (after history).store.index,
        (∃ names : List String, names.Perm (namesWhenLinked history row.id) ∧
          row.tags = " ".intercalate names) ∧
        (renamedSince history row.id = false →
          ∃ names : List String, names.Perm ((after history).store.namesOf row.id) ∧
            row.tags = " ".intercalate names) := by
  have sound := sound_after kept
  refine ⟨sound.archives, texts_after kept, ?_⟩
  intro row member
  have written := names_after kept row member
  refine ⟨written, ?_⟩
  intro unrenamed
  have archived := Store.hasArchive_iff.mpr (sound.indexed row member)
  rwa [namesWhenLinked_of_unrenamed kept archived unrenamed] at written

/-- A history in which a tag is renamed after it has been linked. -/
def renamedTag : List Edit :=
  [.renameTag "artist" "jane" "joan" none,
   .updateArchive 1 .title (.text "Another Tale"),
   .link 1 "artist" "jane" none "2020-01-02 00:00:00",
   .insertArchive none { hash := "h", title := "A Tale", createdAt := "2020-01-01 00:00:00" }]

/-- The index has the new title of the archive and the old name of its tag. -/
theorem renamedTag_is_indexed_as_linked :
    (∀ edit ∈ renamedTag, edit.KeepsTables) ∧ (after renamedTag).store.namesOf 1 = ["joan"] ∧
      ∃ row ∈ (after renamedTag).store.index,
        (row.id, row.title, row.description) = (1, "Another Tale", "") ∧ row.tags = "jane" := by
  have kept : ∀ edit ∈ renamedTag, edit.KeepsTables := by simp [renamedTag, Edit.KeepsTables]
  refine ⟨kept, by decide +kernel, ?_⟩
  obtain ⟨_, texts, tags⟩ := index_follows_the_data kept
  have archived : (1, "Another Tale", "") ∈ (after renamedTag).store.archives.map fun archive =>
      (archive.id, archive.title, archive.description.getD "") := by decide +kernel
  rw [← texts] at archived
  obtain ⟨row, member, isFirst⟩ := List.mem_map.mp archived
  refine ⟨row, member, isFirst, ?_⟩
  obtain ⟨⟨names, written, joined⟩, _⟩ := tags row member
  have old : namesWhenLinked renamedTag 1 = ["jane"] := by decide +kernel
  rw [(Prod.mk.inj isFirst).1, old] at written
  rw [joined, List.perm_singleton.mp written]
  rfl

end Database
end Gallery
