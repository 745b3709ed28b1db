import Gallery.Proofs.Search.Meaning

namespace Gallery
namespace Search

open Store (Archive)

/-!
# Answers

With all tables present a search ends in one of three ways.  It finds nothing
because an empty list leaves nothing to find, it lists the rows of its plan, or
it is refused by the database.  Refusals come from the limits of the engine
alone: on tables, on nesting, on patterns, and on words that end the text of an
expression early.
-/

section Listings

variable {database : Database} {site : Config.Site} {request : Request} {options : Options}
  {ids : List Int64}

/-- Whether a database gives up on the tags of a search before there is a plan. -/
def givesUp (database : Database) (request : Request) (options : Options) : Bool :=
  ((queryOf request options).tags.filter fun tag => tag.role = .excluded).any database.givesUpOn ||
    ((queryOf request options).tags.filter fun tag => tag.role = .optional).any database.givesUpOn

theorem givesUp_eq_false_iff :
    givesUp database request options = false ↔
      ∀ filter ∈ (queryOf request options).tags,
        filter.role = .excluded ∨ filter.role = .optional → database.givesUpOn filter = false := by
  rw [givesUp, Bool.or_eq_false_iff, List.any_eq_false, List.any_eq_false]
  simp only [List.mem_filter, decide_eq_true_eq, and_imp, Bool.not_eq_true, or_imp]
  constructor
  · intro each filter member
    exact ⟨each.1 filter member, each.2 filter member⟩
  · intro every
    exact ⟨fun filter member => (every filter member).1,
      fun filter member => (every filter member).2⟩

theorem Engine.listing_of_present (present : database.missing = []) (site : Config.Site)
    (request : Request) (options : Options) :
    (Engine.mk (.sqlite database) site).listing request options =
      if options.allowIds = some [] then .ok []
      else if givesUp database request options then .error (.backend .longPattern)
      else if (resolved database.store request options).optional = some [] then
        .ok []
      else
        match (planOf database.store request options).evaluate database with
        | .ok rows => .ok ((arrange .sqlite request rows).map Prod.fst)
        | .error refusal => .error (.backend refusal) := by
  have answered : (Connection.sqlite database).resolve (queryOf request options).tags =
      if givesUp database request options then .error (.backend .longPattern)
      else .ok (resolved database.store request options) :=
    Connection.resolve_of_present present _
  simp only [listing, answered, planOf, Connection.dialect]
  by_cases nothingAllowed : options.allowIds = some []
  · simp only [if_pos nothingAllowed]
    rfl
  · simp only [if_neg nothingAllowed]
    cases givesUp database request options with
    | true => rfl
    | false =>
        by_cases noneCarries : (resolved database.store request options).optional = some []
        · simp only [bind, Except.bind, Bool.false_eq_true, if_false, if_pos noneCarries]
          rfl
        · simp only [bind, Except.bind, Bool.false_eq_true, if_false, if_neg noneCarries,
            Connection.run_sqlite]
          cases (Plan.ofQuery (queryOf request options) (resolved database.store request options)
            request options).evaluate database <;> rfl

/-- A listing that neither ends early nor gives up is that of its plan, unless the plan is
refused. -/
theorem Engine.listing_eq_arrangedIds (present : database.missing = []) (site : Config.Site)
    (request : Request) (options : Options) :
    (Engine.mk (.sqlite database) site).listing request options =
      if options.allowIds = some [] then .ok []
      else if givesUp database request options then .error (.backend .longPattern)
      else if (resolved database.store request options).optional = some [] then .ok []
      else
        match (planOf database.store request options).refusal? database with
        | some refusal => .error (.backend refusal)
        | none => .ok (arrangedIds request (planOf database.store request options)
            database.store) := by
  rw [Engine.listing_of_present present, Plan.evaluate]
  cases (planOf database.store request options).refusal? database <;> rfl

/-- The ways in which a search comes to an answer. -/
theorem Engine.listing_cases (present : database.missing = [])
    (listed : (Engine.mk (.sqlite database) site).listing request options = .ok ids) :
    ids = [] ∧ (options.allowIds = some [] ∨
      (resolved database.store request options).optional = some []) ∨
    ids = arrangedIds request (planOf database.store request options) database.store ∧
      (planOf database.store request options).evaluate database =
        .ok ((planOf database.store request options).rows database.store) := by
  rw [Engine.listing_of_present present] at listed
  split at listed
  · exact Or.inl ⟨(Except.ok.inj listed).symm, Or.inl ‹_›⟩
  split at listed
  · cases listed
  split at listed
  · exact Or.inl ⟨(Except.ok.inj listed).symm, Or.inr ‹_›⟩
  cases evaluated : (planOf database.store request options).evaluate database with
  | error refusal =>
      rw [evaluated] at listed
      cases listed
  | ok rows =>
      rw [evaluated] at listed
      rw [Plan.eq_rows_of_evaluate evaluated] at listed ⊢
      exact Or.inr ⟨(Except.ok.inj listed).symm, rfl⟩

/-- What is known of a search with an answer. -/
theorem Engine.of_listing {ids : List Int64} (present : database.missing = [])
    (listed : (Engine.mk (.sqlite database) site).listing request options = .ok ids)
    (allowed : options.allowIds ≠ some []) :
    givesUp database request options = false ∧
      ((resolved database.store request options).optional = some [] ∨
        ∃ rows, (planOf database.store request options).evaluate database = .ok rows) := by
  have answered := listed
  rw [Engine.listing_of_present present, if_neg allowed] at answered
  cases gaveUp : givesUp database request options with
  | true =>
      rw [gaveUp, if_pos rfl] at answered
      cases answered
  | false =>
      refine ⟨rfl, ?_⟩
      rcases Engine.listing_cases present listed with ⟨_, empty⟩ | ⟨_, evaluated⟩
      · exact Or.inl (empty.resolve_left allowed)
      · exact Or.inr ⟨_, evaluated⟩

/-- Where nothing ends a search early, an answer comes of trying every archive. -/
theorem Engine.tried_of_listing {archive : Archive} (present : database.missing = [])
    (listed : (Engine.mk (.sqlite database) site).listing request options = .ok ids)
    (allowed : options.allowIds ≠ some []) (requested : request.ids ≠ some [])
    (carried : (resolved database.store request options).optional ≠ some [])
    (member : archive ∈ database.store.archives) :
    ∃ answer, Plan.tryAll database.store archive
      (Plan.trialOrder (planOf database.store request options).conditions) = .ok answer := by
  rcases (Engine.of_listing present listed allowed).2 with none | ⟨rows, evaluated⟩
  · exact absurd none carried
  · rcases Plan.tried_of_evaluate evaluated member with nothing | tried
    · rcases selectsNothing_planOf_iff.mp nothing with empty | empty | empty
      · exact absurd empty allowed
      · exact absurd empty requested
      · exact absurd empty carried
    · exact tried

/-- Nothing is wanted that an empty list leaves out. -/
theorem not_wants_of_empty {store : Store} {archive : Archive}
    (empty : options.allowIds = some [] ∨
      (resolved store request options).optional = some []) :
    ¬ Wants request options store archive := by
  intro wants
  rcases empty with nothingAllowed | noneCarries
  · cases wants.admitted.allowed [] nothingAllowed
  · have met := (demands_planOf_iff store request options archive).mpr wants
    rw [Plan.demands, Bool.and_eq_true, List.all_eq_true] at met
    have nothing := selectsNothing_planOf_iff.mpr (Or.inr (Or.inr noneCarries))
    exact Bool.false_ne_true (met.1 _ (List.contains_iff_mem.mp nothing))

/-- A listing has the archives that the search wants. -/
theorem mem_listing_iff (present : database.missing = []) (keyed : database.store.Keyed)
    (listed : (Engine.mk (.sqlite database) site).listing request options = .ok ids) (id : Int64) :
    id ∈ ids ↔ ∃ archive ∈ database.store.archives, archive.id = id ∧
      Wants request options database.store archive := by
  rcases Engine.listing_cases present listed with ⟨rfl, empty⟩ | ⟨rfl, evaluated⟩
  · refine iff_of_false List.not_mem_nil ?_
    rintro ⟨archive, _, _, wants⟩
    exact not_wants_of_empty empty wants
  · rw [mem_arrangedIds_iff]
    apply exists_congr
    intro archive
    apply and_congr_right
    intro member
    apply and_congr_right
    intro _
    rw [Plan.holds_eq_demands keyed evaluated member, demands_planOf_iff]

/-- A listing has no archive twice. -/
theorem listing_nodup (present : database.missing = []) (keyed : database.store.Keyed)
    (listed : (Engine.mk (.sqlite database) site).listing request options = .ok ids) :
    ids.Nodup := by
  rcases Engine.listing_cases present listed with ⟨rfl, _⟩ | ⟨rfl, _⟩
  · exact List.nodup_nil
  · exact arrangedIds_nodup request _ database.store keyed

/-- Without pages a search returns its whole listing. -/
theorem exists_listing_of_search {engine : Engine} {result : Result}
    (whole : options.skipPagination = true) (answered : engine.search request options = .ok result) :
    ∃ ids, engine.listing request options = .ok ids ∧ result = ⟨ids, ids.length⟩ := by
  rw [Engine.search_eq_listing] at answered
  cases listed : engine.listing request options with
  | error error =>
      rw [listed] at answered
      cases answered
  | ok ids =>
      rw [listed] at answered
      cases answered
      exact ⟨ids, rfl, by rw [resultOf, whole]; rfl⟩

end Listings

end Search
end Gallery
