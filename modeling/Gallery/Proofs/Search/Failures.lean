import Gallery.Proofs.Search.Listing
import Gallery.Proofs.Store.MissingTables
import Gallery.Proofs.Store.Reachable

namespace Gallery
namespace Search

/-!
# Failures of a search

A search takes up to three steps that may fail: two that resolve tag filters, and one
that evaluates its plan.  The first failure ends the search.  Every step speaks the
dialect of its connection and reads no text of tags, so the only failures are those
that the database reports and a cancellation, which is noticed before the first step.

Which steps are taken depends on the data.  Tags that no filter matches lead to no
archives, so nobody asks for their links, and optional tags that no archive carries
need no plan.  A table that was not asked for may be missing; the theorem at the end
says that its rows could not have mattered.
-/

/-! ## Which failures there are -/

/-- A step that fails in no other way than by a refusal of the database. -/
def Backed {α : Type} (step : Except SearchError α) : Prop :=
  (∃ answer, step = .ok answer) ∨ ∃ refusal, step = .error (.backend refusal)

namespace Backed

variable {α β : Type}

theorem ok (answer : α) : Backed (.ok answer) :=
  Or.inl ⟨answer, rfl⟩

theorem bind {step : Except SearchError α} {next : α → Except SearchError β}
    (head : Backed step) (tail : ∀ answer, Backed (next answer)) : Backed (step >>= next) := by
  rcases head with ⟨answer, rfl⟩ | ⟨refusal, rfl⟩
  · exact tail answer
  · exact Or.inr ⟨refusal, rfl⟩

end Backed

namespace Connection

/-- A statement in the dialect of the connection is never refused for its dialect. -/
theorem backed_run {α : Type} (connection : Connection)
    (statement : Database → Except Refusal α) :
    Backed (connection.run connection.dialect statement) := by
  unfold run
  rw [if_neg (not_not_intro rfl)]
  cases connection with
  | closed spoken => exact Or.inr ⟨.closed, rfl⟩
  | sqlite database =>
      simp only
      cases statement database with
      | ok answer => exact .ok answer
      | error refusal => exact Or.inr ⟨refusal, rfl⟩

theorem backed_archivesMatching (connection : Connection) (filters : List Query.TagFilter) :
    Backed (connection.archivesMatching filters) := by
  unfold archivesMatching
  split
  · exact .ok []
  · exact connection.backed_run _

theorem backed_resolve (connection : Connection) (tags : List Query.TagFilter) :
    Backed (connection.resolve tags) := by
  apply (connection.backed_archivesMatching _).bind
  intro excluded
  apply (connection.backed_archivesMatching _).bind
  intro optional
  exact .ok _

/-! ## Closed connections -/

theorem run_closed {α : Type} (spoken : Sql.Dialect) (statement : Database → Except Refusal α) :
    (Connection.closed spoken).run spoken statement = .error (.backend .closed) := by
  unfold run
  exact if_neg (not_not_intro rfl)

theorem archivesMatching_closed (spoken : Sql.Dialect) (filters : List Query.TagFilter) :
    (Connection.closed spoken).archivesMatching filters =
      if filters.isEmpty then .ok [] else .error (.backend .closed) := by
  unfold archivesMatching dialect
  simp only [run_closed]

/-- On a closed connection tag filters are resolved only if there are none. -/
theorem resolve_closed (spoken : Sql.Dialect) (tags : List Query.TagFilter) :
    (Connection.closed spoken).resolve tags = .error (.backend .closed) ∨
      (Connection.closed spoken).resolve tags = .ok {} := by
  unfold resolve
  simp only [archivesMatching_closed]
  cases (tags.filter fun tag => tag.role = .excluded).isEmpty with
  | false => exact Or.inl rfl
  | true =>
      cases (tags.filter fun tag => tag.role = .optional).isEmpty with
      | false => exact Or.inl rfl
      | true => exact Or.inr rfl

/-! ## Missing tables -/

section Missing

variable (database : Database) (content : Store)

theorem upholds_run {α : Type} {statement : Database → Except Refusal α}
    (upheld : Upholds (statement database) (statement (database.recreate content))) :
    Upholds ((Connection.sqlite database).run .sqlite statement)
      ((Connection.sqlite (database.recreate content)).run .sqlite statement) := by
  rw [run_sqlite, run_sqlite]
  cases ended : statement database with
  | error refusal => exact .of_error _ _
  | ok answer =>
      rw [upheld answer ended]
      exact .refl _

theorem upholds_archivesMatching (filters : List Query.TagFilter) :
    Upholds ((Connection.sqlite database).archivesMatching filters)
      ((Connection.sqlite (database.recreate content)).archivesMatching filters) := by
  unfold archivesMatching
  split
  · exact .refl _
  · exact upholds_run database content (database.upholds_archivesMatching content filters)

theorem upholds_resolve (tags : List Query.TagFilter) :
    Upholds ((Connection.sqlite database).resolve tags)
      ((Connection.sqlite (database.recreate content)).resolve tags) := by
  unfold resolve
  apply (upholds_archivesMatching database content _).bind
  intro excluded
  apply (upholds_archivesMatching database content _).bind
  intro optional
  exact .refl _

end Missing

end Connection

namespace Engine

/-- The steps of a search. -/
theorem search_eq_bind (engine : Engine) (request : Request) {options : Options}
    (allowed : options.allowIds ≠ some []) :
    engine.search request options =
      engine.connection.resolve (queryOf request options).tags >>= fun resolution =>
        if resolution.optional = some [] then .ok {}
        else
          engine.connection.run engine.connection.dialect
            (Plan.ofQuery (queryOf request options) resolution request options).evaluate >>=
              fun rows => .ok (resultOf request options
                ((arrange engine.connection.dialect request rows).map Prod.fst)) := by
  simp only [search, if_neg allowed]
  rfl

theorem search_cancelled (engine : Engine) (request : Request) {options : Options}
    (allowed : options.allowIds ≠ some []) :
    engine.search request options true = .error .cancelled := by
  unfold search
  rw [if_neg allowed]
  rfl

theorem backed_search (engine : Engine) (request : Request) {options : Options}
    (allowed : options.allowIds ≠ some []) : Backed (engine.search request options) := by
  rw [search_eq_bind engine request allowed]
  apply (engine.connection.backed_resolve _).bind
  intro resolution
  split
  · exact Backed.ok _
  · apply (engine.connection.backed_run _).bind
    intro rows
    exact .ok _

theorem search_closed (spoken : Sql.Dialect) (site : Config.Site) (request : Request)
    {options : Options} (allowed : options.allowIds ≠ some []) :
    (Engine.mk (.closed spoken) site).search request options = .error (.backend .closed) := by
  rw [search_eq_bind _ request allowed]
  rcases Connection.resolve_closed spoken (queryOf request options).tags with refused | resolved
  · rw [refused]
    rfl
  · rw [resolved]
    change (Connection.closed spoken).run spoken _ >>= _ = _
    rw [Connection.run_closed]
    rfl

/-- Missing tables take answers away from searches and never change them. -/
theorem upholds_search (database : Database) (content : Store) (site : Config.Site)
    (request : Request) {options : Options} (allowed : options.allowIds ≠ some []) :
    Upholds ((Engine.mk (.sqlite database) site).search request options)
      ((Engine.mk (.sqlite (database.recreate content)) site).search request options) := by
  rw [search_eq_bind _ request allowed, search_eq_bind _ request allowed]
  apply (Connection.upholds_resolve database content _).bind
  intro resolution
  simp only [Connection.dialect]
  split
  · exact .refl _
  · apply Upholds.bind
    · apply Connection.upholds_run
      exact Plan.upholds_evaluate content _ (Plan.joinsCounted_ofQuery _ resolution request options)
    · intro rows
      exact .refl _

end Engine

/-! ## Failures and answers -/

/-- A search that is allowed no archive is answered at once.  Any other search reports
its cancellation if it was cancelled, and otherwise ends with an answer or with the
refusal of the database, which is what a closed connection always gives.  An answer
that was found without some tables is the answer with these tables, whatever is in
them. -/
theorem failures_never_become_answers (connection : Connection) (site : Config.Site)
    (request : Request) (options : Options) (cancelled : Bool) :
    let search := (Engine.mk connection site).search request options cancelled
    (options.allowIds = some [] → search = .ok { ids := [], total := 0 }) ∧
    (options.allowIds ≠ some [] → cancelled = true → search = .error .cancelled) ∧
    (options.allowIds ≠ some [] → cancelled = false →
      ((∃ result, search = .ok result) ∨ ∃ refusal, search = .error (.backend refusal)) ∧
      ∀ spoken, connection = .closed spoken → search = .error (.backend .closed)) ∧
    ∀ database content result, connection = .sqlite database → search = .ok result →
      (Engine.mk (.sqlite (database.recreate content)) site).search request options cancelled =
        .ok result := by
  intro search
  by_cases allowed : options.allowIds = some []
  · have atOnce : ∀ engine : Engine, engine.search request options cancelled = .ok {} := by
      intro engine
      unfold Engine.search
      rw [if_pos allowed]
      rfl
    refine ⟨fun _ => atOnce _, fun other => absurd allowed other,
      fun other => absurd allowed other, ?_⟩
    intro database content result _ answered
    rw [atOnce, ← answered]
    exact (atOnce _).symm
  · refine ⟨fun nothing => absurd nothing allowed, ?_, ?_, ?_⟩
    · rintro - rfl
      exact Engine.search_cancelled _ request allowed
    · rintro - rfl
      refine ⟨Engine.backed_search _ request allowed, ?_⟩
      rintro spoken rfl
      exact Engine.search_closed spoken site request allowed
    · rintro database content result rfl answered
      cases cancelled with
      | true =>
          have noAnswer : search = .error .cancelled := Engine.search_cancelled _ request allowed
          rw [noAnswer] at answered
          cases answered
      | false => exact Engine.upholds_search database content site request allowed result answered

/-- The gallery with one archive after the tables of links and of sources are lost. -/
def withoutLinks : Database :=
  let dropped := (Database.oneArchive.run (.dropTable .archiveTags)).2
  (dropped.run (.dropTable .archiveSources)).2

/-- The tag of no archive is looked for without asking for links, and the archive is found
whatever links there might be; asking for the links themselves is refused. -/
theorem withoutLinks_answers_and_failures :
    ∃ options : Options, options.allowIds ≠ some [] ∧
      (Engine.mk (.sqlite withoutLinks) {}).search { query := "-artist:bob tale" } options =
        .ok { ids := [1], total := 1 } ∧
      (Engine.mk (.sqlite (withoutLinks.recreate { links := [⟨1, 1, ""⟩, ⟨2, 1, ""⟩] })) {}).search
        { query := "-artist:bob tale" } options = .ok { ids := [1], total := 1 } ∧
      (∃ refusal, (Engine.mk (.sqlite withoutLinks) {}).search { query := "-artist:jane" } options =
        .error (.backend refusal)) ∧
      (Engine.mk (.sqlite withoutLinks) {}).search { query := "-artist:jane" } options true =
        .error .cancelled ∧
      (Engine.mk (.sqlite withoutLinks) {}).search { query := "-artist:jane" }
        { allowIds := some [] } = .ok { ids := [], total := 0 } := by
  have answered : (Engine.mk (.sqlite withoutLinks) {}).search { query := "-artist:bob tale" } {} =
      .ok { ids := [1], total := 1 } := by decide +kernel
  have unanswered : ∀ result, (Engine.mk (.sqlite withoutLinks) {}).search
      { query := "-artist:jane" } {} ≠ .ok result := by
    intro result
    have refused : (Engine.mk (.sqlite withoutLinks) {}).search { query := "-artist:jane" } {} =
        .error (.backend (.missingTable .archiveTags)) := by decide +kernel
    rw [refused]
    intro impossible
    cases impossible
  have some_allowed : ({} : Options).allowIds ≠ some [] := by decide
  have bob := failures_never_become_answers (.sqlite withoutLinks) {}
    { query := "-artist:bob tale" } {} false
  have jane := failures_never_become_answers (.sqlite withoutLinks) {} { query := "-artist:jane" }
  refine ⟨{}, some_allowed, answered, bob.2.2.2 withoutLinks _ _ rfl answered, ?_,
    (jane {} true).2.1 some_allowed rfl, (jane { allowIds := some [] } false).1 rfl⟩
  rcases ((jane {} false).2.2.1 some_allowed rfl).1 with ⟨result, found⟩ | refused
  · exact absurd found (unanswered result)
  · exact refused

end Search
end Gallery
