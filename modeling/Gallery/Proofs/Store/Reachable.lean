import Gallery.Proofs.Store.Sound

namespace Gallery

open Store (Edit Column Value Details)

/-!
# Reachable databases

A database gets its content by edits, one after the other, and starts out fresh.
Whatever the edits are and however many of them are refused, the store that they
leave is sound, so all keys hold that the theorems about searches ask for.  The
table of archives has to stay: where it is dropped, the index keeps the rows of
archives that are gone.
-/

/-- Whether an edit leaves the table of archives. -/
def Store.Edit.KeepsArchives : Edit → Prop
  | .dropTable table => table ≠ .archives
  | _ => True

namespace Database

/-- The databases that come of edits. -/
inductive Reachable : Database → Prop
  | fresh : Reachable empty.migrate
  | edited {database : Database} (edit : Edit) :
      Reachable database → edit.KeepsArchives → Reachable (database.run edit).2

/-! ## One edit -/

section Edits

variable {database : Database}

theorem sound_insertArchive (sound : database.store.Sound) (id : Option Int64)
    (details : Details) : (database.insertArchive id details).2.store.Sound := by
  unfold insertArchive
  simp only
  split
  · exact sound
  · split
    · exact sound
    · rename_i accepted
      simp only [Bool.or_eq_true, not_or, Bool.not_eq_true] at accepted
      exact sound.addArchive accepted.1.1.2 details

theorem sound_updateArchive (sound : database.store.Sound) (id : Int64) (column : Column)
    (value : Value) : (database.updateArchive id column value).2.store.Sound := by
  unfold updateArchive
  generalize database.has _ = present
  simp only
  split
  · exact sound
  split
  · exact sound
  rename_i archive found
  split
  · exact sound
  rename_i updated set
  split
  · exact sound
  · have wanted : archive.id = id := by
      simpa using List.find?_some found
    have sameId : updated.id = id := by
      rw [← wanted]
      exact Store.Archive.id_of_set? set
    have changed : Store.Sound { database.store with
        archives := database.store.archives.map fun other =>
          if other.id = id then updated else other } := by
      refine sound.of_same_ids ?_ rfl
      rw [List.map_map]
      apply List.map_congr_left
      intro other _
      simp only [Function.comp_apply]
      split
      · rename_i isSame
        exact sameId.trans isSame.symm
      · rfl
    cases column.isIndexed with
    | true => exact changed.reindexTexts updated
    | false => exact changed

theorem sound_deleteArchive (sound : database.store.Sound) (id : Int64) :
    (database.deleteArchive id).2.store.Sound := by
  unfold deleteArchive
  split
  · exact sound
  split
  · exact sound.removeArchive id
  · exact sound

theorem sound_link (sound : database.store.Sound) (archive : Int64) (scope name : String)
    (displayName : Option String) (time : String) :
    (database.link archive scope name displayName time).2.store.Sound := by
  unfold link
  split
  · exact sound
  split
  · exact sound
  rename_i tagged ensured
  have soundTagged := (sound.ensureTag ensured)
  simp only
  split
  · exact soundTagged
  split
  · exact soundTagged
  · rename_i linked added
    exact soundTagged.addLink added

theorem sound_unlink (sound : database.store.Sound) (archive : Int64) (scope name : String) :
    (database.unlink archive scope name).2.store.Sound := by
  unfold unlink
  split
  · exact sound
  split
  · exact sound
  · rename_i link _
    exact sound.removeLink link archive

theorem sound_renameTag (sound : database.store.Sound) (scope name newName : String)
    (displayName : Option String) :
    (database.renameTag scope name newName displayName).2.store.Sound := by
  unfold renameTag
  simp only
  split
  · exact sound
  split
  · exact sound
  split
  · exact sound
  · rename_i free
    apply sound.renameTag displayName
    by_cases unchanged : newName = name
    · exact Or.inl unchanged
    · exact Or.inr (by simpa [unchanged] using free)

theorem sound_insertSource (sound : database.store.Sound) (archive : Int64) (name : String)
    (url : Option String) : (database.insertSource archive name url).2.store.Sound := by
  unfold insertSource
  simp only
  split
  · exact sound
  · rename_i accepted
    simp only [Bool.or_eq_true, not_or, Bool.not_eq_true, Bool.not_eq_false'] at accepted
    exact sound.addSource accepted.2 _ name url

theorem sound_insertMembership (sound : database.store.Sound) (archive series : Int64) :
    (database.insertMembership archive series).2.store.Sound := by
  unfold insertMembership
  simp only
  split
  · exact sound
  · rename_i accepted
    simp only [Bool.or_eq_true, not_or, Bool.not_eq_true, Bool.not_eq_false'] at accepted
    exact sound.addMembership accepted.1.2 series

/-- With a table go all rows that refer to it. -/
theorem sound_drop (sound : database.store.Sound) {table : Table}
    (notArchives : table ≠ .archives) : (database.drop table).store.Sound := by
  cases table with
  | archives => exact absurd rfl notArchives
  | tags =>
      exact { sound with
        tags := List.nodup_nil
        tagNames := List.nodup_nil
        lastTag := List.forall_mem_nil _
        links := List.nodup_nil
        linkedArchive := List.forall_mem_nil _
        linkedTag := List.forall_mem_nil _ }
  | archiveTags =>
      exact { sound with
        links := List.nodup_nil
        linkedArchive := List.forall_mem_nil _
        linkedTag := List.forall_mem_nil _ }
  | archiveSources => exact { sound with sourced := List.forall_mem_nil _ }
  | series | seriesArchive => exact { sound with grouped := List.forall_mem_nil _ }
  | archivesIndex =>
      exact { sound with
        index := List.nodup_nil
        indexed := List.forall_mem_nil _ }

theorem sound_dropTable (sound : database.store.Sound) {table : Table}
    (notArchives : table ≠ .archives) : (database.dropTable table).2.store.Sound := by
  unfold dropTable
  split
  · exact sound
  · exact sound_drop sound notArchives

theorem sound_run (sound : database.store.Sound) {edit : Edit} (keeps : edit.KeepsArchives) :
    (database.run edit).2.store.Sound := by
  cases edit with
  | insertArchive id details => exact sound_insertArchive sound id details
  | updateArchive id column value => exact sound_updateArchive sound id column value
  | deleteArchive id => exact sound_deleteArchive sound id
  | link archive scope name displayName time =>
      exact sound_link sound archive scope name displayName time
  | unlink archive scope name => exact sound_unlink sound archive scope name
  | renameTag scope name newName displayName =>
      exact sound_renameTag sound scope name newName displayName
  | insertSource archive name url => exact sound_insertSource sound archive name url
  | insertMembership archive series => exact sound_insertMembership sound archive series
  | dropTable table => exact sound_dropTable sound keeps
  | migrate => exact sound

end Edits

/-! ## All edits -/

/-- Edits leave a sound store. -/
theorem Reachable.sound {database : Database} (reachable : Reachable database) :
    database.store.Sound := by
  induction reachable with
  | fresh =>
      constructor
      · exact ⟨List.nodup_nil, List.nodup_nil, List.nodup_nil, List.nodup_nil⟩
      · exact List.nodup_nil
      all_goals
        intro _ member
        cases member
  | edited edit _ keeps inductionHypothesis => exact sound_run inductionHypothesis keeps

theorem Reachable.keyed {database : Database} (reachable : Reachable database) :
    database.store.Keyed :=
  reachable.sound.toKeyed

/-- A gallery with one archive, whose one tag is shown under another name. -/
def oneArchive : Database :=
  let inserted := (empty.migrate.run (.insertArchive none
    { hash := "h", title := "A Tale", createdAt := "2020-01-01 00:00:00" })).2
  (inserted.run (.link 1 "artist" "jane" (some "Foo") "2020-01-01 00:00:00")).2

theorem reachable_oneArchive : Reachable oneArchive := by
  apply Reachable.edited
  · apply Reachable.edited
    · exact Reachable.fresh
    · trivial
  · trivial

end Database
end Gallery
