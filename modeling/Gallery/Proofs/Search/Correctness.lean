import Gallery.Proofs.Search.Counting
import Gallery.Proofs.Store.Reachable

namespace Gallery
namespace Search

open Database (oneArchive)

/-!
# The meaning of a search

What a search finds is what it wants: the archives that it admits and that satisfy
its query.  The parts of an answer come by different ways, from the tags that are
resolved beforehand, from the rows of the plan and from the index, and they come
together here.
-/

/-- An answer has exactly the archives that the search wants, each once, and there is
an answer unless the search exceeds a limit of the engine. -/
theorem search_finds_what_is_wanted {database : Database} (site : Config.Site)
    (request : Request) (options : Options) (present : database.missing = [])
    (keyed : database.store.Keyed) (whole : options.skipPagination = true) :
    (∀ result, (Engine.mk (.sqlite database) site).search request options = .ok result →
      result.ids.Nodup ∧ result.total = result.ids.length ∧
        ∀ id, id ∈ result.ids ↔ ∃ archive ∈ database.store.archives, archive.id = id ∧
          Wants request options database.store archive) ∧
    (WithinLimits database.store request options →
      ∃ result, (Engine.mk (.sqlite database) site).search request options = .ok result) := by
  constructor
  · intro result answered
    rcases exists_listing_of_search whole answered with ⟨ids, listed, rfl⟩
    exact ⟨listing_nodup present keyed listed, rfl, mem_listing_iff present keyed listed⟩
  · intro within
    exact exists_search present within site

/-- In the gallery with one archive a search by tag, title and number of tags finds it. -/
theorem oneArchive_search_finds :
    ∃ request options, oneArchive.missing = [] ∧ oneArchive.store.Keyed ∧
      options.skipPagination = true ∧ WithinLimits oneArchive.store request options ∧
      ∃ result, (Engine.mk (.sqlite oneArchive) {}).search request options = .ok result ∧
        result.ids.Nodup ∧ result.total = result.ids.length ∧
        (1 ∈ result.ids ↔ ∃ archive ∈ oneArchive.store.archives, archive.id = 1 ∧
          Wants request options oneArchive.store archive) := by
  let request : Request := { query := "artist:jane -artist:bob tale artist>0" }
  let options : Options := { skipPagination := true }
  have within : WithinLimits oneArchive.store request options := {
    fits := by decide +kernel
    tags := by decide +kernel
    languages := by decide +kernel
    sources := by decide +kernel
    urls := by decide +kernel
    title := by decide +kernel }
  have present : oneArchive.missing = [] := rfl
  have keyed := Database.reachable_oneArchive.keyed
  have meaning := search_finds_what_is_wanted {} request options present keyed rfl
  rcases meaning.2 within with ⟨result, answered⟩
  rcases meaning.1 result answered with ⟨once, total, members⟩
  exact ⟨request, options, rfl, keyed, rfl, within, result, answered, once, total, members 1⟩

/-- Where there is nothing to find, a word with a null character is refused, and so are
the counts of sixty-three namespaces. -/
theorem search_refused_beyond_limits :
    Database.empty.migrate.missing = [] ∧ Database.empty.migrate.store.Keyed ∧
      (Engine.mk (.sqlite Database.empty.migrate) {}).search { query := "a\x00" }
        { skipPagination := true } = .error (.backend .malformedExpression) ∧
      (Engine.mk (.sqlite Database.empty.migrate) {}).search
        { query := countingQuery (someLetters ++ otherLetters) } { skipPagination := true } =
          .error (.backend .tooManyTables) := by
  have read : Query.parse (countingQuery (someLetters ++ otherLetters)) =
      { numbers := countingFilters (someLetters ++ otherLetters) } :=
    parse_countingQuery (by decide) fun _ member => member
  exact ⟨rfl, Database.Reachable.fresh.keyed, by decide,
    Engine.search_of_many_counts rfl {} (by decide) rfl read (by decide)⟩

end Search
end Gallery
