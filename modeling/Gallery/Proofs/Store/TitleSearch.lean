import Gallery.Proofs.FullText.Meaning
import Gallery.Proofs.Store.Keyed
import Gallery.Store.Meaning

namespace Gallery
namespace Store

/-!
# Title words and the index

The index answers for title words through expressions: one that is wanted, or,
when all that is left are excluded words, one whose rows are left out.  Both
come to the same demand on the one index row of an archive, except for an
archive without a row: it can satisfy nothing, and is left out by nothing.

Stated this way the demand of two lists of words together is the conjunction of
their demands, although the expressions switch from leaving rows out to wanting
rows as soon as excluded words meet others.  Alternatives do not join like this,
so at most one of the lists may have any.
-/

/-- The index row of an archive. -/
def indexRow? (store : Store) (archive : Int64) : Option IndexRow :=
  store.index.find? fun row => row.id = archive

/-- Whether the index row of an archive satisfies title words.  Without a row
there must be nothing to satisfy. -/
def meetsTitle (store : Store) (archive : Int64) (words : Query.TitleWords) : Bool :=
  match store.indexRow? archive with
  | some row => (FullText.Match.kept words).holds row.contains
  | none =>
      (FullText.Match.kept words).required.isEmpty && (FullText.Match.kept words).optional.isEmpty

/-- Without words nothing is demanded. -/
theorem meetsTitle_of_isEmpty (store : Store) (archive : Int64) {words : Query.TitleWords}
    (wordless : words.isEmpty = true) : store.meetsTitle archive words = true := by
  simp only [Query.TitleWords.isEmpty, Bool.and_eq_true, List.isEmpty_iff] at wordless
  rw [meetsTitle]
  simp only [FullText.Match.kept, FullText.Clauses.ofWords, FullText.Clauses.holds, wordless.1.1,
    wordless.1.2, wordless.2]
  cases store.indexRow? archive <;> rfl

/-- The rows of an archive are its one index row, if it has any. -/
theorem any_index_eq (store : Store) (keyed : store.Keyed) (archive : Int64)
    (condition : IndexRow → Bool) :
    (store.index.any fun row => row.id = archive && condition row) =
      (store.indexRow? archive).any condition := by
  rw [Bool.eq_iff_iff, List.any_eq_true, Option.any_eq_true]
  constructor
  · rintro ⟨row, member, holds⟩
    rw [Bool.and_eq_true, decide_eq_true_eq] at holds
    exact ⟨row, (find?_key_eq_some_iff keyed.index).mpr ⟨member, holds.1⟩, holds.2⟩
  · rintro ⟨row, found, satisfied⟩
    have located := (find?_key_eq_some_iff keyed.index).mp found
    exact ⟨row, located.1, Bool.and_eq_true_iff.mpr ⟨decide_eq_true located.2, satisfied⟩⟩

theorem satisfies_of_read {row : IndexRow} {expression : String}
    {tree : FullText.Expression} (found : FullText.Expression.read? expression = some tree) :
    row.satisfies expression = tree.holds row.contains := by
  rw [IndexRow.satisfies, found]

/-- The index has a row that words ask for, or none that they leave out. -/
theorem answersWords_eq (store : Store) (archive : Int64) {words : Query.TitleWords}
    (free : FullText.Match.KeptNullFree words) :
    store.answersWords archive words =
      if FullText.Match.wantsNone words then
        !store.index.any fun row =>
          row.id = archive && !(FullText.Match.kept words).holds row.contains
      else
        store.index.any fun row =>
          row.id = archive && (FullText.Match.kept words).holds row.contains := by
  rw [answersWords]
  cases compiled : FullText.Match.ofWords? words with
  | none =>
      have nothing := (FullText.Match.ofWords?_eq_none_iff words).mp compiled
      simp only [FullText.Clauses.isEmpty, Bool.and_eq_true, List.isEmpty_iff] at nothing
      simp [FullText.Match.wantsNone, FullText.Clauses.holds, nothing.1.1, nothing.1.2, nothing.2]
  | some condition =>
      rcases FullText.Match.exists_read free compiled with ⟨tree, found, meaning⟩
      have answered : ∀ row : IndexRow, row.satisfies condition.expression =
          tree.holds row.contains := fun _ => satisfies_of_read found
      cases condition with
      | matching expression =>
          rw [FullText.Match.wanted_of_matching compiled, if_neg Bool.false_ne_true]
          simp only [indexed, ← meaning, ← answered]
          rfl
      | excluding expression =>
          rw [FullText.Match.unwanted_of_excluding compiled, if_pos rfl]
          simp only [indexed, ← meaning, ← answered, FullText.Match.asks, Bool.not_not]
          rfl

/-- The index answers as the demand on the one index row says. -/
theorem answersWords_eq_meetsTitle (store : Store) (keyed : store.Keyed) (archive : Int64)
    {words : Query.TitleWords} (free : FullText.Match.KeptNullFree words) :
    store.answersWords archive words = store.meetsTitle archive words := by
  rw [answersWords_eq store archive free, store.any_index_eq keyed, store.any_index_eq keyed,
    meetsTitle]
  cases store.indexRow? archive with
  | none =>
      rw [Option.any_none, Option.any_none, ← FullText.Match.wantsNone]
      cases FullText.Match.wantsNone words <;> rfl
  | some row =>
      rw [Option.any_some, Option.any_some, Bool.not_not, ite_self]

end Store
end Gallery
