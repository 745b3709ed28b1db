import Gallery.Plan.Compile
import Gallery.Store.Meaning

namespace Gallery

/-!
# Number filters and the counts of a plan

A number filter speaks of one number of an archive.  A plan takes two of these
numbers from the columns of the archive and counts the others over joins, where
the count of a namespace finds its join by a label.  The labels are numbered, so
a label leads back to the namespace it was made for, and what the plan counts is
the number that the filter speaks of, whatever other counts the plan takes.
-/

namespace Store

/-- The number of an archive that a filter speaks of. -/
def measure (store : Store) (archive : Archive) : Query.Subject → Int
  | .pages => archive.pages.toInt
  | .size => archive.size.toInt
  | .tagCount => (store.links.filter fun link => link.archive = archive.id).length
  | .sourceCount => (store.sourcesOf archive.id).length
  | .namespaceCount name =>
      (store.links.filter fun link =>
        link.archive = archive.id &&
          store.tags.any fun tag => tag.id = link.tag && tag.scope = name).length

/-- Whether the number that a filter speaks of compares as it says. -/
def meetsNumber (store : Store) (archive : Archive) (filter : Query.NumberFilter) : Bool :=
  filter.comparison.holds (store.measure archive filter.subject) filter.value.toInt

end Store

namespace Plan

open Query (NumberFilter)
open Store (Archive)

/-! ## Labels -/

theorem label_injective : Function.Injective label := by
  intro first second same
  have digits := String.ofList_injective ((String.append_right_inj "ns_").mp same)
  have values := congrArg (Nat.ofDigitChars 10 · 0) digits
  simpa only [Nat.ofDigitChars_ten_toDigits] using values

theorem mem_foldl_ensureJoin {requested joins : List CountJoin} {join : CountJoin} :
    join ∈ requested.foldl ensureJoin joins ↔ join ∈ joins ∨ join ∈ requested := by
  induction requested generalizing joins with
  | nil => simp only [List.foldl_nil, List.not_mem_nil, or_false]
  | cons first others inductionHypothesis =>
      rw [List.foldl_cons, inductionHypothesis, List.mem_cons, ← or_assoc]
      refine or_congr_left ?_
      rw [ensureJoin]
      split
      · rename_i present
        refine ⟨Or.inl, fun either => either.elim id fun same => ?_⟩
        exact same ▸ List.contains_iff_mem.mp present
      · rw [List.mem_append, List.mem_singleton]

theorem mem_of_scopeOf {joins : List CountJoin} {name scope : String}
    (found : scopeOf joins name = some scope) : .tagsIn name scope ∈ joins := by
  rcases List.exists_of_findSome?_eq_some found with ⟨join, member, labelled⟩
  cases join with
  | tags | sources => cases labelled
  | tagsIn otherName otherScope =>
      simp only [Option.ite_none_right_eq_some, Option.some.injEq] at labelled
      rcases labelled with ⟨rfl, rfl⟩
      exact member

/-- A label that is used for one namespace only leads to that namespace. -/
theorem scopeOf_of_mem {joins : List CountJoin} {name scope : String}
    (member : .tagsIn name scope ∈ joins)
    (unique : ∀ other, .tagsIn name other ∈ joins → other = scope) :
    scopeOf joins name = some scope := by
  cases found : scopeOf joins name with
  | none =>
      have passed := List.findSome?_eq_none_iff.mp found _ member
      simp only [if_true, reduceCtorEq] at passed
  | some other => rw [unique other (mem_of_scopeOf found)]

/-- The joins that the counts of filters ask for. -/
def requestedJoins (number : Nat) (filters : List NumberFilter) : List CountJoin :=
  (countsFrom number filters).flatMap Count.joins

/-- The labels that are given out are those from the first number on. -/
theorem exists_label_of_requested {number : Nat} {filters : List NumberFilter}
    {name scope : String} (requested : .tagsIn name scope ∈ requestedJoins number filters) :
    ∃ later, number ≤ later ∧ name = label later := by
  induction filters generalizing number with
  | nil => cases requested
  | cons filter others inductionHypothesis =>
      rcases filter with ⟨subject, comparison, value⟩
      cases subject with
      | pages | size => exact inductionHypothesis requested
      | tagCount | sourceCount =>
          rcases List.mem_cons.mp requested with impossible | inOthers
          · cases impossible
          · exact inductionHypothesis inOthers
      | namespaceCount counted =>
          rcases List.mem_cons.mp requested with impossible | requested
          · cases impossible
          rcases List.mem_cons.mp requested with isFirst | inOthers
          · cases isFirst
            exact ⟨number, Nat.le_refl number, rfl⟩
          · rcases inductionHypothesis inOthers with ⟨later, above, isLabel⟩
            exact ⟨later, by omega, isLabel⟩

/-- No label is given out for two namespaces. -/
theorem requested_unique {number : Nat} {filters : List NumberFilter} {name first second : String}
    (inFirst : .tagsIn name first ∈ requestedJoins number filters)
    (inSecond : .tagsIn name second ∈ requestedJoins number filters) : first = second := by
  induction filters generalizing number with
  | nil => cases inFirst
  | cons filter others inductionHypothesis =>
      rcases filter with ⟨subject, comparison, value⟩
      cases subject with
      | pages | size => exact inductionHypothesis inFirst inSecond
      | tagCount | sourceCount =>
          simp only [requestedJoins, countsFrom, List.flatMap_cons, List.cons_append,
            List.nil_append, List.mem_cons, reduceCtorEq, false_or] at inFirst inSecond
          exact inductionHypothesis inFirst inSecond
      | namespaceCount counted =>
          -- Later labels have larger numbers, so this one is not among them.
          have fresh : ∀ scope, .tagsIn (label number) scope ∉ requestedJoins (number + 1) others := by
            intro scope member
            rcases exists_label_of_requested member with ⟨later, above, same⟩
            have equal := label_injective same
            omega
          simp only [requestedJoins, countsFrom, List.flatMap_cons, List.cons_append,
            List.nil_append, List.mem_cons, CountJoin.tagsIn.injEq, reduceCtorEq,
            false_or] at inFirst inSecond
          rcases inFirst with ⟨rfl, rfl⟩ | inFirst
          · rcases inSecond with ⟨-, rfl⟩ | inSecond
            · rfl
            · exact absurd inSecond (fresh second)
          · rcases inSecond with ⟨rfl, rfl⟩ | inSecond
            · exact absurd inFirst (fresh first)
            · exact inductionHypothesis inFirst inSecond

/-- In the joins of a plan every label leads to the namespace it was given out for. -/
theorem scopeOf_foldl_ensureJoin {number : Nat} {filters : List NumberFilter} {name scope : String}
    (requested : .tagsIn name scope ∈ requestedJoins number filters) :
    scopeOf ((requestedJoins number filters).foldl ensureJoin []) name = some scope := by
  apply scopeOf_of_mem (mem_foldl_ensureJoin.mpr (Or.inr requested))
  intro other member
  rcases mem_foldl_ensureJoin.mp member with impossible | inOther
  · cases impossible
  · exact requested_unique inOther requested

/-! ## Counts -/

/-- The conditions on columns and on counts together say what the filters say. -/
theorem all_meetsNumber_of_labels {store : Store} {archive : Archive} {joins : List CountJoin}
    {number : Nat} {filters : List NumberFilter}
    (labels : ∀ name scope, .tagsIn name scope ∈ requestedJoins number filters →
      scopeOf joins name = some scope) :
    ((filters.filterMap numberCondition?).all (fun condition => condition.holds store archive) &&
        ((countsFrom number filters).map Count.having).all
          (fun having => having.holds store joins archive)) =
      filters.all (store.meetsNumber archive) := by
  induction filters generalizing number with
  | nil => rfl
  | cons filter others inductionHypothesis =>
      rcases filter with ⟨subject, comparison, value⟩
      rw [List.all_cons]
      cases subject with
      | pages | size =>
          rw [← inductionHypothesis labels]
          exact Bool.and_assoc _ _ _
      | tagCount | sourceCount =>
          have rest := inductionHypothesis fun name scope member =>
            labels name scope (List.mem_cons_of_mem _ member)
          rw [← rest]
          exact Bool.and_left_comm _ _ _
      | namespaceCount name =>
          have own := labels (label number) name (List.mem_cons_of_mem _ List.mem_cons_self)
          have rest := inductionHypothesis fun other scope member =>
            labels other scope (List.mem_cons_of_mem _ (List.mem_cons_of_mem _ member))
          have counted : (Having.mk (.tagsIn (label number)) comparison value).holds store joins
              archive = store.meetsNumber archive ⟨.namespaceCount name, comparison, value⟩ := by
            simp only [Having.holds, Target.count, own]
            rfl
          rw [← rest, ← counted]
          exact Bool.and_left_comm _ _ _

/-- What a plan asks of the numbers of an archive is what the number filters of its query say. -/
theorem all_meetsNumber (store : Store) (archive : Archive) (filters : List NumberFilter) :
    ((filters.filterMap numberCondition?).all (fun condition => condition.holds store archive) &&
        ((countsFrom 0 filters).map Count.having).all
          (fun having => having.holds store
            (((countsFrom 0 filters).flatMap Count.joins).foldl ensureJoin []) archive)) =
      filters.all (store.meetsNumber archive) :=
  all_meetsNumber_of_labels fun _ _ requested => scopeOf_foldl_ensureJoin requested

end Plan
end Gallery
