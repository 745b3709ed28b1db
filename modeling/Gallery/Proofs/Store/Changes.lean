import Gallery.Proofs.Store.Purge
import Gallery.Proofs.Store.Reachable

namespace Gallery

open Store (Edit Outcome Archive Link Column Value Details)

/-!
# What one edit does

With all tables present an edit either leaves the store as it is or changes it in one
of a few ways.  `Store.Change` lists them with what is known of the store at that
moment, so whatever edits preserve can be shown by cases on the change and without
looking at how an edit is carried out.  An edit that is refused changes nothing, with
one exception: a tag that was created for a link stays when the link is refused.
-/

/-- Whether an edit leaves all tables in place. -/
def Store.Edit.KeepsTables : Edit → Prop
  | .dropTable _ => False
  | _ => True

namespace Store

/-- The store with another archive in place of the one with the given id. -/
def replaceArchive (store : Store) (id : Int64) (updated : Archive) : Store :=
  { store with
    archives := store.archives.map fun other => if other.id = id then updated else other }

/-- The store without a link, with the row of its archive brought up to date. -/
def removeLink (store : Store) (link : Link) (archive : Int64) : Store :=
  { store with links := store.links.filter (· ≠ link) }.reindexTags archive

/-- A link that is looked up by its archive leads from there. -/
theorem archive_of_link? {store : Store} {archive : Int64} {scope name : String} {link : Link}
    (found : store.link? archive scope name = some link) : link.archive = archive := by
  unfold link? at found
  cases tagged : store.tag? scope name with
  | none =>
      rw [tagged] at found
      cases found
  | some tag =>
      rw [tagged] at found
      have wanted := List.find?_some (show store.links.find? _ = some link from found)
      simp only [Bool.and_eq_true, decide_eq_true_eq] at wanted
      exact wanted.1

/-- A tag under its new name, or another tag as it is. -/
def renamed (scope name newName : String) (displayName : Option String) (tag : Listing.Tag) :
    Listing.Tag :=
  if tag.scope = scope && tag.name = name then
    { tag with name := newName, displayName := displayName }
  else tag

/-- The changes that edits make to a store that has all its tables. -/
inductive Change (store : Store) : Edit → Outcome → Store → Prop
  | refused (edit : Edit) : Change store edit .refused store
  | unmet (edit : Edit) : Change store edit (.changed 0) store
  | inserted {given : Option Int64} {id : Int64} (details : Details)
      (fresh : store.hasArchive id = false) :
      Change store (.insertArchive given details) (.inserted id) (store.addArchive id details)
  | updated {id : Int64} {column : Column} {value : Value} {archive updated : Archive}
      (found : store.archive? id = some archive)
      (set : archive.set? column value = some updated) :
      Change store (.updateArchive id column value) (.changed 1)
        (if column.isIndexed then (store.replaceArchive id updated).reindexTexts updated
        else store.replaceArchive id updated)
  | deleted (id : Int64) : Change store (.deleteArchive id) (.changed 1) (store.removeArchive id)
  | tagged {scope name : String} {displayName : Option String} {tagged : Store}
      (archive : Int64) (time : String)
      (ensured : store.ensureTag? scope name displayName = some tagged) :
      Change store (.link archive scope name displayName time) .refused tagged
  | linked {archive : Int64} {scope name time : String} {displayName : Option String}
      {tagged linked : Store} (ensured : store.ensureTag? scope name displayName = some tagged)
      (added : tagged.addLink? archive scope name time = some linked) :
      Change store (.link archive scope name displayName time) .done linked
  | unlinked {archive : Int64} {scope name : String} {link : Link}
      (found : store.link? archive scope name = some link) :
      Change store (.unlink archive scope name) (.changed 1) (store.removeLink link archive)
  | renamed (scope name newName : String) (displayName : Option String) :
      Change store (.renameTag scope name newName displayName) (.changed 1)
        { store with tags := store.tags.map (renamed scope name newName displayName) }
  | sourced (archive : Int64) (name : String) (url : Option String) :
      Change store (.insertSource archive name url) .done
        { store with
          sources := store.sources ++ [⟨store.lastSource + 1, archive, name, url⟩]
          lastSource := store.lastSource + 1 }
  | grouped (archive series : Int64) :
      Change store (.insertMembership archive series) .done
        { store with memberships := store.memberships ++ [⟨series, archive⟩] }
  | migrated : Change store .migrate .done store

end Store

namespace Database

open Store (Change)

variable {database : Database}

theorem has_of_present (present : database.missing = []) (tables : List Table) :
    database.has tables = true := by
  simp [has, present]

theorem missing_run (present : database.missing = []) {edit : Edit} (keeps : edit.KeepsTables) :
    (database.run edit).2.missing = [] := by
  cases edit with
  | dropTable table => exact absurd keeps id
  | migrate => rfl
  | insertArchive _ _ | updateArchive _ _ _ | deleteArchive _ | link _ _ _ _ _ | unlink _ _ _
  | renameTag _ _ _ _ | insertSource _ _ _ | insertMembership _ _ =>
      simp only [run, insertArchive, updateArchive, deleteArchive, link, unlink, renameTag,
        insertSource, insertMembership]
      repeat' split
      all_goals exact present

/-- With all tables present, what an edit does is one of the changes. -/
theorem change_run (present : database.missing = []) {edit : Edit} (keeps : edit.KeepsTables) :
    Change database.store edit (database.run edit).1 (database.run edit).2.store := by
  have all := has_of_present present
  cases edit with
  | dropTable table => exact absurd keeps id
  | migrate => exact .migrated
  | insertArchive given details =>
      simp only [run, insertArchive, all, Bool.not_true, Bool.false_or]
      split
      · exact .refused _
      rename_i id _
      split
      · exact .refused _
      · rename_i accepted
        simp only [Bool.or_eq_true, not_or, Bool.not_eq_true] at accepted
        exact .inserted details accepted.1.1
  | updateArchive id column value =>
      simp only [run, updateArchive, all, Bool.not_true, Bool.false_eq_true, if_false]
      split
      · exact .unmet _
      rename_i archive found
      split
      · exact .refused _
      rename_i updated set
      split
      · exact .refused _
      · exact .updated found set
  | deleteArchive id =>
      simp only [run, deleteArchive, all, Bool.not_true, Bool.false_eq_true, if_false]
      split
      · exact .deleted id
      · exact .unmet _
  | link archive scope name displayName time =>
      simp only [run, link, all, Bool.not_true, Bool.false_eq_true, if_false]
      split
      · exact .refused _
      rename_i tagged ensured
      have stillThere : (database.withStore tagged).has [.archives, .archiveTags, .archivesIndex] =
          true := has_of_present present _
      simp only [stillThere, Bool.not_true, Bool.false_eq_true, if_false]
      split
      · exact .tagged archive time ensured
      · rename_i linked added
        exact .linked ensured added
  | unlink archive scope name =>
      simp only [run, unlink, all, Bool.not_true, Bool.false_eq_true, if_false]
      split
      · exact .unmet _
      · rename_i link found
        exact .unlinked found
  | renameTag scope name newName displayName =>
      simp only [run, renameTag, all, Bool.not_true, Bool.false_eq_true, if_false]
      split
      · exact .unmet _
      split
      · exact .refused _
      · exact .renamed scope name newName displayName
  | insertSource archive name url =>
      simp only [run, insertSource, all, Bool.not_true, Bool.false_or]
      split
      · exact .refused _
      · exact .sourced archive name url
  | insertMembership archive series =>
      simp only [run, insertMembership, all, Bool.not_true, Bool.false_or]
      split
      · exact .refused _
      · exact .grouped archive series

end Database
end Gallery
