import Gallery.Proofs.Search.Deleted

namespace Gallery

/-!
# One search with other title words

The words of a title have one condition in the plan of a search, and nothing else depends
on them.  So what other words change about a search is what they change about this
condition: what it answers for an archive, whether its expression can be read, and how
deep it nests.

A row is tried against the condition after those on its visibility and its id, and before
all that may be refused for other reasons.  The conditions in front of it are never
refused themselves.  So a row that does not reach the title is out, and a row that does is
out or refused where the title is, whatever comes later.
-/

namespace Plan

open FullText (Match)
open Store (Archive)

/-! ## The condition of title words -/

/-- Words of which nothing is searched for make no match. -/
theorem ofWords?_of_isEmpty {words : Query.TitleWords} (wordless : words.isEmpty = true) :
    Match.ofWords? words = none := by
  simp only [Query.TitleWords.isEmpty, Bool.and_eq_true, List.isEmpty_iff] at wordless
  rw [Match.ofWords?_eq_none_iff]
  simp only [FullText.Clauses.isEmpty, Match.kept, FullText.Clauses.ofWords, wordless.1.1,
    wordless.1.2, wordless.2, List.filterMap_nil, List.isEmpty_nil, Bool.and_self]

section Condition

variable {store : Store} {archive : Archive} {words others : Query.TitleWords}

/-- What the title of a search answers for an archive when it is tried. -/
def titleAttempt (store : Store) (archive : Archive) (words : Query.TitleWords) :
    Except Refusal Bool :=
  (Condition.fullText words).attempt store archive

theorem titleAttempt_eq (store : Store) (archive : Archive) (words : Query.TitleWords) :
    titleAttempt store archive words =
      if (Condition.fullText words).unreadable?.isSome then .error .malformedExpression
      else .ok (store.answersWords archive.id words) := rfl

theorem titleAttempt_of_none (unwritten : Match.ofWords? words = none) :
    titleAttempt store archive words = .ok true := by
  have readable : (Condition.fullText words).unreadable? = none := by
    rw [Condition.unreadable?, unwritten, Option.filter_none]
  rw [titleAttempt_eq, readable, Store.answersWords, unwritten]
  rfl

theorem tryAll_titleConditions (words : Query.TitleWords) :
    tryAll store archive (titleConditions words) = titleAttempt store archive words := by
  rw [titleConditions]
  split
  · rename_i wordless
    rw [titleAttempt_of_none (ofWords?_of_isEmpty wordless), tryAll]
  · rw [tryAll, titleAttempt]
    cases (Condition.fullText words).attempt store archive with
    | error refusal => rfl
    | ok held => cases held <;> rfl

theorem all_holds_titleConditions (words : Query.TitleWords) :
    ((titleConditions words).all fun condition => condition.holds store archive) =
      store.answersWords archive.id words := by
  rw [titleConditions]
  split
  · rename_i wordless
    rw [Store.answersWords, ofWords?_of_isEmpty wordless, List.all_nil]
  · rw [List.all_cons, List.all_nil, Bool.and_true]
    rfl

/-- What is not the case where nothing is searched for is the case of the condition as a whole. -/
theorem any_titleConditions {property : Condition → Bool}
    (idle : ∀ words, Match.ofWords? words = none → property (.fullText words) = false)
    (words : Query.TitleWords) :
    (titleConditions words).any property = property (.fullText words) := by
  rw [titleConditions]
  split
  · rename_i wordless
    rw [idle words (ofWords?_of_isEmpty wordless), List.any_nil]
  · rw [List.any_cons, List.any_nil, Bool.or_false]

theorem heights_titleConditions (words : Query.TitleWords) :
    (titleConditions words).filterMap Condition.height? =
      (Condition.fullText words).height?.toList := by
  rw [titleConditions]
  split
  · rename_i wordless
    rw [Condition.height?, ofWords?_of_isEmpty wordless]
    rfl
  · rw [List.filterMap_cons, List.filterMap_nil]
    cases (Condition.fullText words).height? <;> rfl

theorem foldl_innerHeight_titleConditions (words : Query.TitleWords) (height : Nat) :
    ((titleConditions words).map Condition.innerHeight).foldl max height =
      max height (Condition.fullText words).innerHeight := by
  rw [titleConditions]
  split
  · rename_i wordless
    rw [Condition.innerHeight, ofWords?_of_isEmpty wordless]
    exact (Nat.max_zero height).symm
  · rfl

/-- Words with one match have one condition. -/
theorem titleAttempt_congr (same : Match.ofWords? words = Match.ofWords? others) :
    titleAttempt store archive words = titleAttempt store archive others := by
  rw [titleAttempt_eq, titleAttempt_eq, Condition.unreadable?, Condition.unreadable?, same,
    Store.answersWords, Store.answersWords, same]

theorem Condition.wantsUnreadable_congr (same : Match.ofWords? words = Match.ofWords? others) :
    (Condition.fullText words).wantsUnreadable = (Condition.fullText others).wantsUnreadable := by
  rw [wantsUnreadable, wantsUnreadable, unreadable?, unreadable?, same]

theorem titleAttempt_of_readable (readable : (Condition.fullText words).unreadable? = none) :
    titleAttempt store archive words = .ok (store.answersWords archive.id words) := by
  rw [titleAttempt_eq, readable]
  rfl

theorem titleAttempt_of_unreadable {condition : Match}
    (unreadable : (Condition.fullText words).unreadable? = some condition) :
    titleAttempt store archive words = .error .malformedExpression := by
  rw [titleAttempt_eq, unreadable]
  rfl

end Condition

end Plan

namespace Search

open FullText (Match)
open Plan (Condition titleAttempt)
open Store (Archive)

/-! ## The plan with other words -/

section Plans

variable (store : Store) (request : Request) (options : Options)

/-- The conditions of a search in front of the one on its title, and behind it. -/
def conditionsBeforeTitle : List Condition :=
  conditionsBefore request options ++ idConditions (resolved store request options)

def conditionsAfterTitle : List Condition :=
  (Query.parse request.query).languages.map .language ++
    Plan.unlessEmpty (Query.parse request.query).sources .anySourceName ++
    Plan.unlessEmpty (Query.parse request.query).urls .anySourceUrl ++
    (Query.parse request.query).numbers.filterMap Plan.numberCondition?

/-- The plan of a search with other title words. -/
def planWith (words : Query.TitleWords) : Plan :=
  { planOf store request options with
    conditions := conditionsBeforeTitle store request options ++
      (Plan.titleConditions words ++ conditionsAfterTitle request) }

theorem planOf_eq_planWith :
    planOf store request options =
      planWith store request options (Query.parse request.query).title := by
  apply eq_withConditions
  rw [conditions_planOf_eq]
  simp only [conditionsBeforeTitle, conditionsAfterTitle, conditionsAfter, List.append_assoc]

variable {request}

theorem queryOf_withQuery {line : String} {words : Query.TitleWords}
    (read : Query.parse line = { Query.parse request.query with title := words }) :
    queryOf (request.withQuery line) options = { queryOf request options with title := words } := by
  simp only [queryOf, Request.withQuery, read]

theorem planOf_withQuery {line : String} {words : Query.TitleWords}
    (read : Query.parse line = { Query.parse request.query with title := words }) :
    planOf store (request.withQuery line) options = planWith store request options words := by
  rw [planOf_eq_planWith]
  simp only [planWith, planOf, resolved, queryOf_withQuery options read, conditionsBeforeTitle,
    conditionsBefore, conditionsAfterTitle]
  simp only [Request.withQuery, read]
  rfl

end Plans

/-! ## Trying rows -/

section Trials

variable {store : Store} {request : Request} {options : Options} {archive : Archive}
  {words others : Query.TitleWords}

variable (store request options) in
/-- The conditions that are tried before the title. -/
def earlyConditions : List Condition :=
  (conditionsBeforeTitle store request options).filter (Condition.onSide false)

variable (store request options) in
/-- The conditions that are tried after the title. -/
def lateConditions : List Condition :=
  (conditionsAfterTitle request).filter (Condition.onSide false) ++
    ((conditionsBeforeTitle store request options).filter (Condition.onSide true) ++
      (conditionsAfterTitle request).filter (Condition.onSide true))

theorem trialOrder_planWith (words : Query.TitleWords) :
    Plan.trialOrder (planWith store request options words).conditions =
      earlyConditions store request options ++
        (Plan.titleConditions words ++ lateConditions store request options) := by
  have near : ∀ around, (Plan.titleConditions words).filter (Condition.onSide around) =
      if around then [] else Plan.titleConditions words :=
    Plan.filter_onSide_of_near fun _ => Plan.near_titleConditions
  simp only [planWith, Plan.trialOrder_eq, List.filter_append, near, Bool.false_eq_true, if_false,
    if_true, List.nil_append, earlyConditions, lateConditions, List.append_assoc]

theorem tame_earlyConditions {condition : Condition}
    (member : condition ∈ earlyConditions store request options) : condition.Tame := by
  rw [earlyConditions, conditionsBeforeTitle, List.filter_append] at member
  rcases List.mem_append.mp member with before | onIds
  · exact tame_conditionsBefore before
  · exact tame_idConditions (List.mem_filter.mp onIds).1

/-- Whether an archive gets as far as the title. -/
def reachesTitle (store : Store) (request : Request) (options : Options) (archive : Archive) :
    Bool :=
  (earlyConditions store request options).all fun condition => condition.holds store archive

/-- A row that does not reach the title is out; for one that does, the title decides whether it is
tried against what comes later. -/
theorem tryAll_planWith (words : Query.TitleWords) :
    Plan.tryAll store archive (Plan.trialOrder (planWith store request options words).conditions) =
      if reachesTitle store request options archive then
        match titleAttempt store archive words with
        | .ok true => Plan.tryAll store archive (lateConditions store request options)
        | other => other
      else .ok false := by
  rw [trialOrder_planWith, Plan.tryAll_append, Plan.tryAll_of_tame fun _ => tame_earlyConditions,
    Plan.tryAll_append, Plan.tryAll_titleConditions, reachesTitle]
  cases (earlyConditions store request options).all fun condition => condition.holds store archive
    <;> rfl

theorem holds_planWith (words : Query.TitleWords) :
    (planWith store request options words).holds store archive =
      (((conditionsBeforeTitle store request options).all fun condition =>
          condition.holds store archive) &&
        (store.answersWords archive.id words &&
          (conditionsAfterTitle request).all fun condition => condition.holds store archive) &&
        (planOf store request options).having.all fun having =>
          having.holds store (planOf store request options).joins archive) := by
  rw [Plan.holds, planWith, List.all_append, List.all_append, Plan.all_holds_titleConditions]

theorem not_holds_of_unreached (unreached : reachesTitle store request options archive = false)
    (words : Query.TitleWords) :
    (planWith store request options words).holds store archive = false := by
  have fails : ((conditionsBeforeTitle store request options).all fun condition =>
      condition.holds store archive) = false := by
    rw [reachesTitle, earlyConditions, List.all_eq_false] at unreached
    rcases unreached with ⟨condition, member, failed⟩
    exact List.all_eq_false.mpr ⟨condition, (List.mem_filter.mp member).1, failed⟩
  rw [holds_planWith, fails, Bool.false_and, Bool.false_and]

/-- What a plan asks of its conditions, and never of title words, does not depend on them. -/
theorem any_conditions_planWith {property : Condition → Bool}
    (never : ∀ words, property (.fullText words) = false) (words others : Query.TitleWords) :
    (planWith store request options words).conditions.any property =
      (planWith store request options others).conditions.any property := by
  simp only [planWith, List.any_append, Plan.any_titleConditions fun words _ => never words, never]

theorem selectsNothing_planWith (words others : Query.TitleWords) :
    (planWith store request options words).selectsNothing =
      (planWith store request options others).selectsNothing := by
  rw [Plan.selectsNothing, Plan.selectsNothing, List.contains_eq_any_beq, List.contains_eq_any_beq]
  exact any_conditions_planWith (fun _ => rfl) words others

theorem startsAtIndex_planWith (words others : Query.TitleWords) :
    (planWith store request options words).startsAtIndex =
      (planWith store request options others).startsAtIndex :=
  congrArg Bool.not (any_conditions_planWith (fun _ => rfl) words others)

/-- Only title words can be unreadable. -/
theorem unreadable?_of_mem_around {condition : Condition}
    (member : condition ∈ conditionsBeforeTitle store request options ++
      conditionsAfterTitle request) : condition.unreadable? = none := by
  simp only [conditionsBeforeTitle, conditionsBefore, conditionsAfterTitle, Plan.requestConditions,
    Plan.unlessEmpty, List.mem_append, List.mem_map, List.mem_ite_nil_left, List.mem_ite_nil_right,
    List.mem_singleton, Option.mem_toList, Option.map_eq_some_iff, List.mem_filterMap] at member
  rcases member with ((((((⟨_, rfl⟩ | ⟨_, _, rfl⟩) | ⟨_, _, rfl⟩) | ⟨_, rfl⟩) | ⟨_, _, rfl⟩) |
    onIds) | (((⟨_, _, rfl⟩ | ⟨_, rfl⟩) | ⟨_, rfl⟩) | ⟨filter, _, isCondition⟩))
  case inl.inr =>
    rcases mem_idConditions onIds with rfl | ⟨_, _, rfl⟩ <;> rfl
  case inr.inr =>
    rcases filter with ⟨subject, comparison, value⟩
    cases subject <;> cases isCondition <;> rfl
  all_goals rfl

theorem wantsUnreadable_planWith (words : Query.TitleWords) :
    (planWith store request options words).wantsUnreadable =
      (Condition.fullText words).wantsUnreadable := by
  have around : (conditionsBeforeTitle store request options ++ conditionsAfterTitle request).any
      Condition.wantsUnreadable = false := by
    refine List.any_eq_false.mpr fun condition member => ?_
    rw [Condition.wantsUnreadable_of_readable (unreadable?_of_mem_around member)]
    exact Bool.false_ne_true
  have idle : ∀ words, Match.ofWords? words = none →
      (Condition.fullText words).wantsUnreadable = false := by
    intro words unwritten
    apply Condition.wantsUnreadable_of_readable
    rw [Condition.unreadable?, unwritten, Option.filter_none]
  rw [List.any_append, Bool.or_eq_false_iff] at around
  rw [Plan.wantsUnreadable, planWith]
  simp only [List.any_append, around.1, around.2, Plan.any_titleConditions idle, Bool.false_or,
    Bool.or_false]

theorem nesting_planWith_congr (same : Match.ofWords? words = Match.ofWords? others) :
    (planWith store request options words).nesting =
      (planWith store request options others).nesting := by
  have heights : (Condition.fullText words).height? = (Condition.fullText others).height? := by
    rw [Condition.height?, Condition.height?, same]
  have inner : (Condition.fullText words).innerHeight =
      (Condition.fullText others).innerHeight := by
    rw [Condition.innerHeight, Condition.innerHeight, same]
  simp only [Plan.nesting, Plan.treeHeight, planWith, List.filterMap_append, List.map_append,
    List.foldl_append, Plan.heights_titleConditions, Plan.foldl_innerHeight_titleConditions,
    heights, inner]

/-- Where some list of ids is empty, no archive is selected. -/
theorem not_holds_of_selectsNothing {plan : Plan} (nothing : plan.selectsNothing = true) :
    plan.holds store archive = false := by
  have fails : (plan.conditions.all fun condition => condition.holds store archive) = false :=
    List.all_eq_false.mpr ⟨.idIn [], List.contains_iff_mem.mp nothing, Bool.false_ne_true⟩
  rw [Plan.holds, fails, Bool.false_and]

end Trials

/-! ## Answers -/

section Answers

variable {database : Database} {site : Config.Site} {request : Request} {options : Options}
  {words others : Query.TitleWords} {line : String} {ids : List Int64}
  {rows : List (Int64 × String)}

theorem rows_planWith_congr {store : Store}
    (same : ∀ archive ∈ store.archives,
      store.answersWords archive.id words = store.answersWords archive.id others) :
    (planWith store request options words).rows store =
      (planWith store request options others).rows store := by
  have held : store.archives.filter ((planWith store request options words).holds store) =
      store.archives.filter ((planWith store request options others).holds store) := by
    refine List.filter_congr fun archive member => ?_
    rw [holds_planWith, holds_planWith, same archive member]
  rw [Plan.rows, Plan.rows, Plan.select, Plan.select, held]
  rfl

/-- Plans with one match are evaluated alike. -/
theorem evaluate_planWith_congr (present : database.missing = [])
    (same : Match.ofWords? words = Match.ofWords? others) :
    (planWith database.store request options words).evaluate database =
      (planWith database.store request options others).evaluate database := by
  have rowRefusals : (planWith database.store request options words).rowRefusal? database.store =
      (planWith database.store request options others).rowRefusal? database.store := by
    funext archive
    rw [Plan.rowRefusal?, Plan.rowRefusal?, tryAll_planWith, tryAll_planWith,
      Plan.titleAttempt_congr same]
  have refusals : (planWith database.store request options words).refusal? database =
      (planWith database.store request options others).refusal? database := by
    rw [Plan.refusal?, Plan.refusal?, Plan.refusal?_of_present present,
      Plan.refusal?_of_present present, nesting_planWith_congr same,
      selectsNothing_planWith words others, startsAtIndex_planWith words others,
      wantsUnreadable_planWith, wantsUnreadable_planWith, Condition.wantsUnreadable_congr same,
      rowRefusals]
    rfl
  have selected : (planWith database.store request options words).rows database.store =
      (planWith database.store request options others).rows database.store :=
    rows_planWith_congr fun archive _ => by rw [Store.answersWords, Store.answersWords, same]
  rw [Plan.evaluate, Plan.evaluate, refusals, selected]

theorem fits_of_evaluate {plan : Plan} (present : database.missing = [])
    (answered : plan.evaluate database = .ok rows) : plan.Fits := by
  by_contra large
  have accepted := Plan.refusal?_of_evaluate answered
  rcases Plan.refusal?_of_not_fits present large with refused | refused <;>
    cases accepted.symm.trans refused

theorem rows_eq_nil {plan : Plan}
    (unheld : ∀ archive ∈ database.store.archives, plan.holds database.store archive = false) :
    plan.rows database.store = [] := by
  have none_held : database.store.archives.filter (plan.holds database.store) = [] :=
    List.filter_eq_nil_iff.mpr fun archive member =>
      Bool.eq_false_iff.mp (unheld archive member)
  rw [Plan.rows, Plan.select, none_held, List.mergeSort_nil, List.map_nil]

/-- Words that admit no archive more than those of an answered plan leave it answered, unless its
statement becomes too deep. -/
theorem evaluate_planWith_of_stricter (present : database.missing = [])
    (answered : (planWith database.store request options words).evaluate database = .ok rows)
    (readable : (Condition.fullText others).unreadable? = none)
    (stricter : ∀ archive ∈ database.store.archives,
      database.store.answersWords archive.id others = true →
        database.store.answersWords archive.id words = true)
    (shallow : (planWith database.store request options others).nesting ≤ nestingLimit) :
    (planWith database.store request options others).evaluate database =
      .ok ((planWith database.store request options others).rows database.store) := by
  have fits : (planWith database.store request options others).Fits :=
    ⟨(fits_of_evaluate present answered).1, shallow⟩
  have readsAll : (planWith database.store request options others).wantsUnreadable = false := by
    rw [wantsUnreadable_planWith, Condition.wantsUnreadable_of_readable readable]
  suffices tries : (planWith database.store request options others).selectsNothing = true ∨
      ∀ archive ∈ database.store.archives, ∃ answer, Plan.tryAll database.store archive
        (Plan.trialOrder (planWith database.store request options others).conditions) =
          .ok answer by
    rw [Plan.evaluate, Plan.refusal?_of_rows present fits readsAll tries]
  rw [selectsNothing_planWith others words]
  refine or_iff_not_imp_left.mpr fun selects archive member => ?_
  rcases (Plan.tried_of_evaluate answered member).resolve_left selects with ⟨answer, tried⟩
  rw [tryAll_planWith] at tried ⊢
  cases reached : reachesTitle database.store request options archive with
  | false => exact ⟨false, rfl⟩
  | true =>
      rw [reached, if_pos rfl] at tried
      rw [if_pos rfl, Plan.titleAttempt_of_readable readable]
      cases admitted : database.store.answersWords archive.id others with
      | false => exact ⟨false, rfl⟩
      | true =>
          -- The row goes on to what comes later, and so it did before.
          have before := stricter archive member admitted
          cases unreadable : (Condition.fullText words).unreadable? with
          | some condition =>
              rw [Plan.titleAttempt_of_unreadable unreadable] at tried
              cases tried
          | none =>
              rw [Plan.titleAttempt_of_readable unreadable, before] at tried
              exact ⟨answer, tried⟩

theorem rowRefusal?_planWith_of_unreadable {store : Store} {condition : Match}
    (unreadable : (Condition.fullText words).unreadable? = some condition)
    (archive : Archive) :
    (planWith store request options words).rowRefusal? store archive =
      if reachesTitle store request options archive then some .malformedExpression else none := by
  rw [Plan.rowRefusal?, tryAll_planWith, Plan.titleAttempt_of_unreadable unreadable]
  cases reachesTitle store request options archive <;> rfl

/-- Words that cannot be read are refused as soon as one archive gets as far as them.  If none does,
none is selected, whatever the words are. -/
theorem refusal?_planWith_of_unreadable (present : database.missing = [])
    (fits : (planWith database.store request options words).Fits) {condition : Match}
    (unreadable : (Condition.fullText words).unreadable? = some condition) :
    (planWith database.store request options words).refusal? database =
        some .malformedExpression ∨
      (planWith database.store request options words).refusal? database = none ∧
        ∀ others, ∀ archive ∈ database.store.archives,
          (planWith database.store request options others).holds database.store archive =
            false := by
  rw [Plan.refusal?, Plan.refusal?_of_present present]
  simp only [if_neg (Nat.not_lt.mpr fits.1), if_neg (Nat.not_lt.mpr fits.2)]
  by_cases nothing : (planWith database.store request options words).selectsNothing = true
  · exact Or.inr ⟨if_pos nothing, fun others _ _ =>
      not_holds_of_selectsNothing ((selectsNothing_planWith others words).trans nothing)⟩
  · rw [if_neg nothing]
    split
    · exact Or.inl rfl
    · cases first : database.store.archives.findSome?
        ((planWith database.store request options words).rowRefusal? database.store) with
      | some refusal =>
          rcases List.exists_of_findSome?_eq_some first with ⟨archive, _, refused⟩
          rw [rowRefusal?_planWith_of_unreadable unreadable,
            Option.ite_none_right_eq_some] at refused
          exact Or.inl refused.2.symm
      | none =>
          refine Or.inr ⟨rfl, fun others archive member => ?_⟩
          have kept := List.findSome?_eq_none_iff.mp first archive member
          rw [rowRefusal?_planWith_of_unreadable unreadable, ite_eq_right_iff] at kept
          refine not_holds_of_unreached (Bool.eq_false_iff.mpr fun reached => ?_) others
          cases kept reached

theorem evaluate_planWith_of_unreadable (present : database.missing = [])
    (answered : (planWith database.store request options words).evaluate database = .ok rows)
    {condition : Match} (unreadable : (Condition.fullText others).unreadable? = some condition)
    (shallow : (planWith database.store request options others).nesting ≤ nestingLimit) :
    (planWith database.store request options others).evaluate database =
        .error .malformedExpression ∨
      (planWith database.store request options others).evaluate database = .ok [] ∧ rows = [] := by
  have fits : (planWith database.store request options others).Fits :=
    ⟨(fits_of_evaluate present answered).1, shallow⟩
  rw [Plan.evaluate]
  rcases refusal?_planWith_of_unreadable present fits unreadable with refused | ⟨accepted, unheld⟩
  · rw [refused]
    exact Or.inl rfl
  · rw [accepted, rows_eq_nil (unheld others), Plan.eq_rows_of_evaluate answered,
      rows_eq_nil (unheld words)]
    exact Or.inr ⟨rfl, rfl⟩

theorem evaluate_planWith_of_deep (present : database.missing = [])
    (answered : (planWith database.store request options words).evaluate database = .ok rows)
    (deep : nestingLimit < (planWith database.store request options others).nesting) :
    (planWith database.store request options others).evaluate database = .error .tooDeep := by
  have joined : ¬ tableLimit <
      (planWith database.store request options others).joins.length + 1 :=
    Nat.not_lt.mpr (fits_of_evaluate present answered).1
  have refused : (planWith database.store request options others).refusal? database =
      some .tooDeep := by
    rw [Plan.refusal?, Plan.refusal?_of_present present]
    exact (if_neg joined).trans (if_pos deep)
  rw [Plan.evaluate, refused]

/-- The listing of what a plan is evaluated to. -/
def listingOf (request : Request) :
    Except Refusal (List (Int64 × String)) → Except SearchError (List Int64)
  | .ok rows => .ok ((arrange .sqlite request rows).map Prod.fst)
  | .error refusal => .error (.backend refusal)

theorem listingOf_nil (request : Request) : listingOf request (.ok []) = .ok [] := by
  rw [listingOf, (arrange_perm .sqlite request []).eq_nil, List.map_nil]

/-- A line that reads as the same query with other title words ends early where the query does, and
is listed by the plan with these words. -/
theorem Engine.listing_withQuery (present : database.missing = []) (site : Config.Site)
    (options : Options)
    (read : Query.parse line = { Query.parse request.query with title := words }) :
    (Engine.mk (.sqlite database) site).listing (request.withQuery line) options =
      if options.allowIds = some [] then .ok []
      else if givesUp database request options then .error (.backend .longPattern)
      else if (resolved database.store request options).optional = some [] then .ok []
      else listingOf request
        ((planWith database.store request options words).evaluate database) := by
  have sameTags : (queryOf (request.withQuery line) options).tags =
      (queryOf request options).tags := by
    rw [queryOf_withQuery options read]
  have givenUp : givesUp database (request.withQuery line) options =
      givesUp database request options := by
    rw [givesUp, givesUp, sameTags]
  have resolution : resolved database.store (request.withQuery line) options =
      resolved database.store request options := by
    rw [resolved, resolved, sameTags]
  rw [Engine.listing_of_present present, planOf_withQuery _ _ read, givenUp, resolution]
  cases (planWith database.store request options words).evaluate database <;> rfl

/-- The query itself is a line with its own title words. -/
theorem Engine.listing_eq_listingOf (present : database.missing = []) (site : Config.Site)
    (request : Request) (options : Options) :
    (Engine.mk (.sqlite database) site).listing request options =
      if options.allowIds = some [] then .ok []
      else if givesUp database request options then .error (.backend .longPattern)
      else if (resolved database.store request options).optional = some [] then .ok []
      else listingOf request
        ((planWith database.store request options (Query.parse request.query).title).evaluate
          database) :=
  Engine.listing_withQuery present site options rfl

/-- Words with one match are searched for alike. -/
theorem Engine.listing_withQuery_congr (present : database.missing = []) (site : Config.Site)
    (options : Options)
    (read : Query.parse line = { Query.parse request.query with title := words })
    (same : Match.ofWords? (Query.parse request.query).title = Match.ofWords? words) :
    (Engine.mk (.sqlite database) site).listing (request.withQuery line) options =
      (Engine.mk (.sqlite database) site).listing request options := by
  rw [Engine.listing_withQuery present site options read, Engine.listing_eq_listingOf present,
    evaluate_planWith_congr present same]

/-- Where a search is answered, one with other title words ends early with it or is left to their
plan. -/
theorem Engine.listing_withQuery_cases (present : database.missing = [])
    (read : Query.parse line = { Query.parse request.query with title := words })
    (listed : (Engine.mk (.sqlite database) site).listing request options = .ok ids) :
    ids = [] ∧ (Engine.mk (.sqlite database) site).listing (request.withQuery line) options =
        .ok [] ∨
      ∃ rows, (planWith database.store request options (Query.parse request.query).title).evaluate
          database = .ok rows ∧
        listingOf request (.ok rows) = .ok ids ∧
        (Engine.mk (.sqlite database) site).listing (request.withQuery line) options =
          listingOf request
            ((planWith database.store request options words).evaluate database) := by
  rw [Engine.listing_eq_listingOf present] at listed
  rw [Engine.listing_withQuery present site options read]
  split at listed
  · exact Or.inl ⟨(Except.ok.inj listed).symm, if_pos ‹_›⟩
  rw [if_neg ‹_›]
  split at listed
  · cases listed
  rw [if_neg ‹_›]
  split at listed
  · exact Or.inl ⟨(Except.ok.inj listed).symm, if_pos ‹_›⟩
  rw [if_neg ‹_›]
  cases evaluated : (planWith database.store request options
      (Query.parse request.query).title).evaluate database with
  | error refusal =>
      rw [evaluated] at listed
      cases listed
  | ok rows =>
      rw [evaluated] at listed
      exact Or.inr ⟨rows, rfl, listed, rfl⟩

theorem Engine.listing_withQuery_of_deep (present : database.missing = [])
    (read : Query.parse line = { Query.parse request.query with title := words })
    (listed : (Engine.mk (.sqlite database) site).listing request options = .ok ids)
    (deep : nestingLimit < (planWith database.store request options words).nesting) :
    (Engine.mk (.sqlite database) site).listing (request.withQuery line) options =
        .error (.backend .tooDeep) ∨
      (Engine.mk (.sqlite database) site).listing (request.withQuery line) options = .ok [] ∧
        ids = [] := by
  rcases Engine.listing_withQuery_cases present read listed with
      ⟨none, early⟩ | ⟨rows, answered, _, left⟩
  · exact Or.inr ⟨early, none⟩
  · rw [left, evaluate_planWith_of_deep present answered deep]
    exact Or.inl rfl

/-- Words that the index answers alike find the same. -/
theorem Engine.listing_withQuery_of_same (present : database.missing = [])
    (read : Query.parse line = { Query.parse request.query with title := words })
    (listed : (Engine.mk (.sqlite database) site).listing request options = .ok ids)
    (shallow : (planWith database.store request options words).nesting ≤ nestingLimit)
    (readable : (Condition.fullText words).unreadable? = none)
    (same : ∀ archive ∈ database.store.archives, database.store.answersWords archive.id words =
      database.store.answersWords archive.id (Query.parse request.query).title) :
    (Engine.mk (.sqlite database) site).listing (request.withQuery line) options = .ok ids := by
  rcases Engine.listing_withQuery_cases present read listed with
      ⟨rfl, early⟩ | ⟨rows, answered, isIds, left⟩
  · exact early
  · have stricter := evaluate_planWith_of_stricter present answered readable
      (fun archive member admitted => (same archive member).symm.trans admitted) shallow
    rw [left, stricter, rows_planWith_congr same, ← Plan.eq_rows_of_evaluate answered]
    exact isIds

/-- Words that the index answers for no archive find nothing. -/
theorem Engine.listing_withQuery_of_none (present : database.missing = [])
    (read : Query.parse line = { Query.parse request.query with title := words })
    (listed : (Engine.mk (.sqlite database) site).listing request options = .ok ids)
    (shallow : (planWith database.store request options words).nesting ≤ nestingLimit)
    (readable : (Condition.fullText words).unreadable? = none)
    (none : ∀ archive ∈ database.store.archives,
      database.store.answersWords archive.id words = false) :
    (Engine.mk (.sqlite database) site).listing (request.withQuery line) options = .ok [] := by
  rcases Engine.listing_withQuery_cases present read listed with
      ⟨_, early⟩ | ⟨rows, answered, _, left⟩
  · exact early
  · have stricter := evaluate_planWith_of_stricter present answered readable
      (fun archive member admitted =>
        absurd ((none archive member).symm.trans admitted) Bool.false_ne_true) shallow
    have nothing : (planWith database.store request options words).rows database.store = [] :=
      rows_eq_nil fun archive member => by
        rw [holds_planWith, none archive member, Bool.false_and, Bool.and_false, Bool.false_and]
    rw [left, stricter, nothing, listingOf_nil]

theorem Engine.listing_withQuery_of_unreadable (present : database.missing = [])
    (read : Query.parse line = { Query.parse request.query with title := words })
    (listed : (Engine.mk (.sqlite database) site).listing request options = .ok ids)
    (shallow : (planWith database.store request options words).nesting ≤ nestingLimit)
    {condition : Match} (unreadable : (Condition.fullText words).unreadable? = some condition) :
    (Engine.mk (.sqlite database) site).listing (request.withQuery line) options =
        .error (.backend .malformedExpression) ∨
      (Engine.mk (.sqlite database) site).listing (request.withQuery line) options = .ok [] ∧
        ids = [] := by
  rcases Engine.listing_withQuery_cases present read listed with
      ⟨none, early⟩ | ⟨rows, answered, isIds, left⟩
  · exact Or.inr ⟨early, none⟩
  · rcases evaluate_planWith_of_unreadable present answered unreadable shallow with
        refused | ⟨nothing, rfl⟩
    · rw [left, refused]
      exact Or.inl rfl
    · rw [listingOf_nil] at isIds
      rw [left, nothing, listingOf_nil]
      exact Or.inr ⟨rfl, (Except.ok.inj isIds).symm⟩

end Answers

end Search
end Gallery
