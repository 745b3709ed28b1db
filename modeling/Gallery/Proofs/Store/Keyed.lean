import Gallery.Store.Edit
import Mathlib.Data.List.Nodup

namespace Gallery
namespace Store

/-!
# Keys of a store

The tables of a store are lists, and nothing in a list prevents a key from
occurring twice.  The tables of a database do: ids of archives, tags and index
rows are unique, and a tag is linked to an archive at most once.  `Keyed` states
these constraints.  The theorems about searches assume it of the store at hand, and
every store that edits lead to meets it.
-/

/-- The key constraints of the tables. -/
structure Keyed (store : Store) : Prop where
  archives : (store.archives.map Archive.id).Nodup
  tags : (store.tags.map Listing.Tag.id).Nodup
  links : (store.links.map fun link => (link.archive, link.tag)).Nodup
  index : (store.index.map IndexRow.id).Nodup

/-- Two members of a list with the same unique key are the same. -/
theorem eq_of_unique_key {α β : Type} {key : α → β} {rows : List α} {first second : α}
    (unique : (rows.map key).Nodup) (inFirst : first ∈ rows) (inSecond : second ∈ rows)
    (same : key first = key second) : first = second :=
  List.inj_on_of_nodup_map unique inFirst inSecond same

/-- What some row with a unique key satisfies is what its only row satisfies. -/
theorem any_key_and {α β : Type} [DecidableEq β] {key : α → β} {rows : List α} {row : α}
    (unique : (rows.map key).Nodup) (member : row ∈ rows) (condition : α → Bool) :
    (rows.any fun other => key other = key row && condition other) = condition row := by
  rw [Bool.eq_iff_iff, List.any_eq_true]
  simp only [Bool.and_eq_true, decide_eq_true_eq]
  constructor
  · rintro ⟨other, inRows, sameKey, met⟩
    rwa [← eq_of_unique_key unique inRows member sameKey]
  · intro met
    exact ⟨row, member, rfl, met⟩

/-- The row that a look-up by a unique key finds. -/
theorem find?_key_eq_some_iff {α β : Type} [DecidableEq β] {key : α → β} {rows : List α}
    {wanted : β} {row : α} (unique : (rows.map key).Nodup) :
    rows.find? (fun row => key row = wanted) = some row ↔ row ∈ rows ∧ key row = wanted := by
  constructor
  · intro found
    exact ⟨List.mem_of_find?_eq_some found, of_decide_eq_true (List.find?_some found :)⟩
  · rintro ⟨member, isWanted⟩
    cases found : rows.find? (fun row => key row = wanted) with
    | none => exact absurd isWanted (by simpa using List.find?_eq_none.mp found row member)
    | some other =>
        have otherMember := List.mem_of_find?_eq_some found
        have otherWanted : key other = wanted := of_decide_eq_true (List.find?_some found :)
        rw [eq_of_unique_key unique otherMember member (otherWanted.trans isWanted.symm)]

end Store
end Gallery
