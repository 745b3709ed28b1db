import Gallery.Proofs.FullText.Unreadable
import Gallery.Proofs.Plan.Trial

namespace Gallery
namespace Plan

open Store (Archive)

/-!
# What an answered plan demands

Title words reach the index as the text of an expression, and a text that cannot
be read holds of no row.  That is no demand anyone made.  `Condition.demands`
says instead what the words ask of the index row of an archive.  The two differ
only for words that cannot be read, and a database that tries a row against such
words refuses the whole plan.  So whenever there is an answer, each of its rows
was tried against what was demanded.
-/

/-- What a condition demands of an archive. -/
def Condition.demands (store : Store) (archive : Archive) : Condition → Bool
  | .fullText words => store.meetsTitle archive.id words
  | condition => condition.holds store archive

/-- Only words without null characters can be read. -/
theorem Condition.keptNullFree_of_readable {words : Query.TitleWords}
    (readable : (Condition.fullText words).unreadable? = none) :
    FullText.Match.KeptNullFree words := by
  by_contra cut
  cases compiled : FullText.Match.ofWords? words with
  | none =>
      have nothing := (FullText.Match.ofWords?_eq_none_iff words).mp compiled
      simp only [FullText.Clauses.isEmpty, Bool.and_eq_true, List.isEmpty_iff] at nothing
      apply cut
      intro word member
      rw [nothing.1.1, nothing.1.2, nothing.2] at member
      cases member
  | some condition =>
      rw [unreadable?, compiled, Option.filter_some,
        FullText.Match.read?_eq_none cut compiled] at readable
      cases readable

/-- An attempt that is not refused says whether the demand is met. -/
theorem Condition.eq_demands_of_attempt {store : Store} (keyed : store.Keyed) {archive : Archive}
    {condition : Condition} {answer : Bool} (tried : condition.attempt store archive = .ok answer) :
    answer = condition.demands store archive := by
  rw [eq_holds_of_attempt tried]
  cases condition with
  | fullText words =>
      have readable : (Condition.fullText words).unreadable? = none := by
        cases unread : (Condition.fullText words).unreadable? with
        | none => rfl
        | some expression =>
            simp only [attempt, unread, Option.isSome_some, if_true, reduceCtorEq] at tried
      exact store.answersWords_eq_meetsTitle keyed archive.id (keptNullFree_of_readable readable)
  | hasTag _ _ | idIn _ | idNotIn _ | compare _ _ _ | language _ | anySourceName _
  | anySourceUrl _ | inSeries | visible => rfl

/-- Whether an archive meets all demands of a plan. -/
def demands (plan : Plan) (store : Store) (archive : Archive) : Bool :=
  plan.conditions.all (fun condition => condition.demands store archive) &&
    plan.having.all fun having => having.holds store plan.joins archive

/-- What a database that answers has found out about each archive: nothing, because
there was nothing to find, or whether all conditions hold. -/
theorem tried_of_evaluate {plan : Plan} {database : Database} {rows : List (Int64 × String)}
    (answered : plan.evaluate database = .ok rows) {archive : Archive}
    (member : archive ∈ database.store.archives) :
    plan.selectsNothing = true ∨
      ∃ answer, tryAll database.store archive (trialOrder plan.conditions) = .ok answer := by
  have accepted := refusal?_of_evaluate answered
  rw [refusal?] at accepted
  split at accepted
  · cases accepted
  split at accepted
  · cases accepted
  split at accepted
  · cases accepted
  split at accepted
  · exact Or.inl ‹_›
  split at accepted
  · cases accepted
  · have tried := List.findSome?_eq_none_iff.mp accepted archive member
    exact Or.inr ((rowRefusal?_eq_none_iff plan database.store archive).mp tried)

/-- A plan that is answered holds of an archive exactly if its demands are met. -/
theorem holds_eq_demands {plan : Plan} {database : Database} (keyed : database.store.Keyed)
    {rows : List (Int64 × String)} (answered : plan.evaluate database = .ok rows)
    {archive : Archive} (member : archive ∈ database.store.archives) :
    plan.holds database.store archive = plan.demands database.store archive := by
  suffices same : plan.conditions.all (fun condition => condition.holds database.store archive) =
      plan.conditions.all (fun condition => condition.demands database.store archive) by
    rw [holds, demands, same]
  rcases tried_of_evaluate answered member with nothing | ⟨answer, tried⟩
  · have empty := List.contains_iff_mem.mp nothing
    have unheld : ¬ Condition.holds database.store archive (.idIn []) = true := Bool.false_ne_true
    have unmet : ¬ Condition.demands database.store archive (.idIn []) = true := Bool.false_ne_true
    rw [List.all_eq_false.mpr ⟨_, empty, unheld⟩, List.all_eq_false.mpr ⟨_, empty, unmet⟩]
  · have held := eq_all_of_tryAll (fun _ _ attempted => Condition.eq_holds_of_attempt attempted) tried
    have met := eq_all_of_tryAll
      (fun _ _ attempted => Condition.eq_demands_of_attempt keyed attempted) tried
    rw [all_trialOrder] at held met
    exact held.symm.trans met

end Plan
end Gallery
