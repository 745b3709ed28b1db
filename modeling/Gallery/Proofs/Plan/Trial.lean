import Gallery.Proofs.Store.TitleSearch
import Gallery.Store.Refusal

namespace Gallery
namespace Plan

open Store (Archive)

/-!
# Trying rows

A database that evaluates a plan tries each row against the conditions one by
one, and may give up in the middle.  The theorems here separate the two
questions.  Whatever it answers is what the plan means: a trial that ends
without a refusal ends with the truth of all conditions, whatever order they
were tried in.  And it does answer if the statement is not too large, no pattern
is too long, and the title words can be read.

The order of the trials decides only which rows are spared a refusal.  It
matters when two plans are put together, because a condition of one may spare a
row the refusal of the other.  Trials of lists put together part by part are
therefore compared by `Joins`, which asks for an answer only where both lists
have one.
-/

/-! ## One condition -/

/-- What is answered behind a guard. -/
private theorem eq_of_guarded {guard : Bool} {refusal : Refusal} {value answer : Bool}
    (answered : (if guard then Except.error refusal else Except.ok value) = .ok answer) :
    answer = value := by
  cases guard with
  | true => cases answered
  | false => exact (Except.ok.inj answered).symm

theorem eq_any_of_tryAny {holds : String → Bool} {patterns : List String} {answer : Bool}
    (tried : tryAny holds patterns = .ok answer) : answer = patterns.any holds := by
  induction patterns with
  | nil => exact (Except.ok.inj tried).symm
  | cons pattern rest inductionHypothesis =>
      rw [tryAny] at tried
      split at tried
      · cases tried
      · split at tried
        · rename_i held
          rw [List.any_cons, held, Bool.true_or]
          exact (Except.ok.inj tried).symm
        · rename_i failed
          rw [List.any_cons, Bool.eq_false_iff.mpr failed, Bool.false_or]
          exact inductionHypothesis tried

theorem tryAny_of_short {holds : String → Bool} {patterns : List String}
    (short : ∀ pattern ∈ patterns, isLongPattern pattern = false) :
    tryAny holds patterns = .ok (patterns.any holds) := by
  induction patterns with
  | nil => rfl
  | cons pattern rest inductionHypothesis =>
      have head := short pattern List.mem_cons_self
      have tail := inductionHypothesis fun other member => short other (List.mem_cons_of_mem _ member)
      rw [tryAny, head, tail, List.any_cons]
      cases holds pattern <;> rfl

/-- An attempt that is not refused says whether the condition holds. -/
theorem Condition.eq_holds_of_attempt {store : Store} {archive : Archive} {condition : Condition}
    {answer : Bool} (tried : condition.attempt store archive = .ok answer) :
    answer = condition.holds store archive := by
  cases condition with
  | hasTag scope pattern => exact eq_of_guarded tried
  | language pattern => exact eq_of_guarded tried
  | anySourceName patterns =>
      simp only [attempt] at tried
      split at tried
      · rename_i noSource
        rw [List.isEmpty_iff] at noSource
        simp only [holds, noSource, List.any_nil, List.any_eq_false.mpr fun _ _ => Bool.false_ne_true]
        exact (Except.ok.inj tried).symm
      · exact eq_any_of_tryAny tried
  | anySourceUrl texts =>
      simp only [attempt] at tried
      split at tried
      · rename_i noSource
        rw [List.isEmpty_iff] at noSource
        simp only [holds, noSource, List.any_nil, List.any_eq_false.mpr fun _ _ => Bool.false_ne_true]
        exact (Except.ok.inj tried).symm
      · rw [eq_any_of_tryAny tried, List.any_map]
        rfl
  | fullText words => exact eq_of_guarded tried
  | idIn _ | idNotIn _ | compare _ _ _ | inSeries | visible =>
      exact (Except.ok.inj tried).symm

/-- A condition that no row is refused for: its patterns are short enough and its
words can be read. -/
def Condition.Tame : Condition → Prop
  | .hasTag _ pattern | .language pattern => isLongPattern pattern = false
  | .anySourceName patterns => ∀ pattern ∈ patterns, isLongPattern pattern = false
  | .anySourceUrl texts => ∀ text ∈ texts, isLongPattern (urlPattern text) = false
  | .fullText words => FullText.Match.KeptNullFree words
  | _ => True

/-- Readable title words are never given up on. -/
theorem Condition.unreadable?_eq_none {words : Query.TitleWords}
    (free : FullText.Match.KeptNullFree words) :
    (Condition.fullText words).unreadable? = none := by
  rw [unreadable?]
  cases compiled : FullText.Match.ofWords? words with
  | none => rfl
  | some condition =>
      rcases FullText.Match.exists_read free compiled with ⟨tree, readable, _⟩
      rw [Option.filter_some, readable]
      rfl

theorem Condition.attempt_of_tame {store : Store} {archive : Archive} {condition : Condition}
    (tame : condition.Tame) :
    condition.attempt store archive = .ok (condition.holds store archive) := by
  cases condition with
  | hasTag scope pattern =>
      have short : isLongPattern pattern = false := tame
      simp only [attempt, short, Bool.false_and, Bool.false_eq_true, if_false]
  | language pattern =>
      have short : isLongPattern pattern = false := tame
      simp only [attempt, short, Bool.false_eq_true, if_false]
  | anySourceName patterns =>
      simp only [attempt, holds]
      split
      · rename_i noSource
        rw [List.isEmpty_iff] at noSource
        simp only [noSource, List.any_nil, List.any_eq_false.mpr fun _ _ => Bool.false_ne_true]
      · exact tryAny_of_short tame
  | anySourceUrl texts =>
      have short : ∀ pattern ∈ texts.map urlPattern, isLongPattern pattern = false := by
        intro pattern member
        rcases List.mem_map.mp member with ⟨text, inTexts, same⟩
        exact same ▸ tame text inTexts
      simp only [attempt, holds]
      split
      · rename_i noSource
        rw [List.isEmpty_iff] at noSource
        simp only [noSource, List.any_nil, List.any_eq_false.mpr fun _ _ => Bool.false_ne_true]
      · rw [tryAny_of_short short, List.any_map]
        rfl
  | fullText words =>
      simp only [attempt, unreadable?_eq_none tame, Option.isSome_none, Bool.false_eq_true, if_false]
  | idIn _ | idNotIn _ | compare _ _ _ | inSeries | visible => rfl

/-! ## All conditions -/

section Trials

variable {store : Store} {archive : Archive}

/-- A trial that ends ends with the truth of all conditions, whatever is taken for
the truth of a condition whose attempt is refused. -/
theorem eq_all_of_tryAll {truth : Condition → Bool}
    (agrees : ∀ condition answer, condition.attempt store archive = .ok answer →
      answer = truth condition)
    {conditions : List Condition} {answer : Bool}
    (tried : tryAll store archive conditions = .ok answer) : answer = conditions.all truth := by
  induction conditions with
  | nil => exact (Except.ok.inj tried).symm
  | cons condition rest inductionHypothesis =>
      rw [tryAll] at tried
      cases attempted : condition.attempt store archive with
      | error refusal =>
          rw [attempted] at tried
          cases tried
      | ok held =>
          rw [attempted] at tried
          rw [List.all_cons, ← agrees condition held attempted]
          cases held with
          | false => exact (Except.ok.inj tried).symm
          | true => exact inductionHypothesis tried

theorem tryAll_of_tame {conditions : List Condition}
    (tame : ∀ condition ∈ conditions, condition.Tame) :
    tryAll store archive conditions =
      .ok (conditions.all fun condition => condition.holds store archive) := by
  induction conditions with
  | nil => rfl
  | cons condition rest inductionHypothesis =>
      have head : condition.attempt store archive = .ok (condition.holds store archive) :=
        Condition.attempt_of_tame (tame condition List.mem_cons_self)
      have tail := inductionHypothesis fun other member => tame other (List.mem_cons_of_mem _ member)
      rw [tryAll, head, tail, List.all_cons]
      cases condition.holds store archive <;> rfl

/-- A trial looks at a store only through the attempts of its conditions. -/
theorem tryAll_congr {other : Store} {conditions : List Condition}
    (same : ∀ condition ∈ conditions,
      condition.attempt other archive = condition.attempt store archive) :
    tryAll other archive conditions = tryAll store archive conditions := by
  induction conditions with
  | nil => rfl
  | cons condition rest inductionHypothesis =>
      have later := inductionHypothesis fun next member => same next (List.mem_cons_of_mem _ member)
      rw [tryAll, tryAll, same condition List.mem_cons_self, later]

/-- The trial of two lists one after the other. -/
theorem tryAll_append (first second : List Condition) :
    tryAll store archive (first ++ second) =
      match tryAll store archive first with
      | .ok true => tryAll store archive second
      | other => other := by
  induction first with
  | nil => rfl
  | cons condition rest inductionHypothesis =>
      rw [List.cons_append, tryAll, tryAll]
      cases condition.attempt store archive with
      | error refusal => rfl
      | ok held => cases held with
        | false => rfl
        | true => exact inductionHypothesis

/-- No condition is tried that is not in the list. -/
theorem mem_of_mem_trialOrder {conditions : List Condition} {condition : Condition}
    (member : condition ∈ trialOrder conditions) : condition ∈ conditions := by
  rcases List.mem_append.mp member with near | around
  · exact (List.mem_filter.mp near).1
  · exact (List.mem_filter.mp around).1

/-- The order of the trials does not change what is asked. -/
theorem all_trialOrder (conditions : List Condition) (holds : Condition → Bool) :
    (trialOrder conditions).all holds = conditions.all holds := by
  rw [trialOrder, List.all_append, Bool.eq_iff_iff, Bool.and_eq_true, List.all_eq_true,
    List.all_eq_true, List.all_eq_true]
  constructor
  · rintro ⟨near, around⟩ condition member
    cases looks : condition.looksAround with
    | false => exact near condition (List.mem_filter.mpr ⟨member, by rw [looks]; rfl⟩)
    | true => exact around condition (List.mem_filter.mpr ⟨member, looks⟩)
  · intro every
    exact ⟨fun condition member => every condition (List.mem_filter.mp member).1,
      fun condition member => every condition (List.mem_filter.mp member).1⟩

variable (store archive) in
/-- A list of conditions that is answered wherever two others are, by the
conjunction of their answers. -/
def Joins (first second both : List Condition) : Prop :=
  ∀ left right, tryAll store archive first = .ok left → tryAll store archive second = .ok right →
    tryAll store archive both = .ok (left && right)

namespace Joins

theorem same (conditions : List Condition) : Joins store archive conditions conditions conditions := by
  intro left right first second
  have equal := Except.ok.inj (first.symm.trans second)
  rw [← equal, Bool.and_self, first]

theorem left (conditions : List Condition) : Joins store archive conditions [] conditions := by
  intro left right first second
  rw [first, ← Except.ok.inj second, Bool.and_true]

theorem right (conditions : List Condition) : Joins store archive [] conditions conditions := by
  intro left right first second
  rw [second, ← Except.ok.inj first, Bool.true_and]

theorem concat (first second : List Condition) :
    Joins store archive first second (first ++ second) := by
  intro left right tried triedSecond
  rw [tryAll_append, tried, triedSecond]
  cases left <;> rfl

/-- Lists that are never refused join if they hold together. -/
theorem of_tame {first second both : List Condition}
    (tameFirst : ∀ condition ∈ first, condition.Tame)
    (tameSecond : ∀ condition ∈ second, condition.Tame)
    (tameBoth : ∀ condition ∈ both, condition.Tame)
    (holds : (both.all fun condition => condition.holds store archive) =
      ((first.all fun condition => condition.holds store archive) &&
        second.all fun condition => condition.holds store archive)) :
    Joins store archive first second both := by
  intro left right tried triedSecond
  rw [tryAll_of_tame tameFirst] at tried
  rw [tryAll_of_tame tameSecond] at triedSecond
  rw [tryAll_of_tame tameBoth, holds, Except.ok.inj tried, Except.ok.inj triedSecond]

/-- What the trial of a list tells about its first part and the rest. -/
private theorem parts {first second : List Condition} {answer : Bool}
    (tried : tryAll store archive (first ++ second) = .ok answer) :
    ∃ head, tryAll store archive first = .ok head ∧
      (head = false ∧ answer = false ∨
        head = true ∧ tryAll store archive second = .ok answer) := by
  rw [tryAll_append] at tried
  cases begun : tryAll store archive first with
  | error refusal =>
      rw [begun] at tried
      cases tried
  | ok head =>
      rw [begun] at tried
      cases head with
      | false => exact ⟨false, rfl, Or.inl ⟨rfl, (Except.ok.inj tried).symm⟩⟩
      | true => exact ⟨true, rfl, Or.inr ⟨rfl, tried⟩⟩

/-- Lists that join part by part join as a whole.  A part that fails ends the
trial of its own list and of the joined one alike, so later parts are compared
only when both lists have got that far. -/
theorem append {first second both first' second' both' : List Condition}
    (head : Joins store archive first second both)
    (tail : Joins store archive first' second' both') :
    Joins store archive (first ++ first') (second ++ second') (both ++ both') := by
  intro left right triedFirst triedSecond
  rcases parts triedFirst with ⟨a, begunFirst, endedFirst⟩
  rcases parts triedSecond with ⟨b, begunSecond, endedSecond⟩
  have begun := head a b begunFirst begunSecond
  rw [tryAll_append, begun]
  rcases endedFirst with ⟨rfl, rfl⟩ | ⟨rfl, triedFirst⟩
  · rfl
  · rcases endedSecond with ⟨rfl, rfl⟩ | ⟨rfl, triedSecond⟩
    · rw [Bool.and_false, Bool.and_false]
    · exact tail left right triedFirst triedSecond

end Joins

end Trials

/-! ## Whole plans -/

/-- Whether a statement is small enough to be read by a database. -/
def Fits (plan : Plan) : Prop :=
  plan.joins.length + 1 ≤ tableLimit ∧ plan.nesting ≤ nestingLimit

instance (plan : Plan) : Decidable plan.Fits :=
  inferInstanceAs (Decidable (_ ∧ _))

theorem refusal?_of_present {database : Database} (present : database.missing = [])
    (tables : List Table) : database.refusal? tables = none := by
  have none_missing : tables.find? database.missing.contains = none := by
    apply List.find?_eq_none.mpr
    intro table _
    rw [present, List.contains_nil]
    exact Bool.false_ne_true
  rw [Database.refusal?, none_missing, Option.map_none]

theorem rowRefusal?_eq_none_iff (plan : Plan) (store : Store) (archive : Archive) :
    plan.rowRefusal? store archive = none ↔
      ∃ answer, tryAll store archive (trialOrder plan.conditions) = .ok answer := by
  rw [rowRefusal?]
  cases tryAll store archive (trialOrder plan.conditions) with
  | error refusal =>
      constructor
      · intro impossible
        cases impossible
      · rintro ⟨_, impossible⟩
        cases impossible
  | ok answer => exact ⟨fun _ => ⟨answer, rfl⟩, fun _ => rfl⟩

/-- What a database answers with is what the plan means. -/
theorem eq_rows_of_evaluate {plan : Plan} {database : Database} {rows : List (Int64 × String)}
    (answered : plan.evaluate database = .ok rows) : rows = plan.rows database.store := by
  rw [evaluate] at answered
  split at answered
  · cases answered
  · exact (Except.ok.inj answered).symm

theorem refusal?_of_evaluate {plan : Plan} {database : Database} {rows : List (Int64 × String)}
    (answered : plan.evaluate database = .ok rows) : plan.refusal? database = none := by
  rw [evaluate] at answered
  split at answered
  · cases answered
  · rename_i accepted
    exact accepted

/-- A plan whose statement fits is refused only because of its rows or of title
words that cannot be read. -/
theorem refusal?_of_rows {plan : Plan} {database : Database} (present : database.missing = [])
    (fits : plan.Fits) (readable : plan.wantsUnreadable = false)
    (rows : plan.selectsNothing = true ∨ ∀ archive ∈ database.store.archives,
      ∃ answer, tryAll database.store archive (trialOrder plan.conditions) = .ok answer) :
    plan.refusal? database = none := by
  rw [refusal?, refusal?_of_present present]
  simp only [if_neg (Nat.not_lt.mpr fits.1), if_neg (Nat.not_lt.mpr fits.2), readable,
    Bool.and_false, Bool.false_eq_true, if_false]
  split
  · rfl
  · rename_i tries
    rcases rows with nothing | answered
    · exact absurd nothing tries
    · apply List.findSome?_eq_none_iff.mpr
      intro archive member
      exact (rowRefusal?_eq_none_iff plan database.store archive).mpr (answered archive member)

/-- A plan whose statement does not fit is refused for its size, whatever the rows are. -/
theorem refusal?_of_not_fits {plan : Plan} {database : Database} (present : database.missing = [])
    (large : ¬ plan.Fits) :
    plan.refusal? database = some .tooManyTables ∨ plan.refusal? database = some .tooDeep := by
  rw [refusal?, refusal?_of_present present]
  by_cases tables : tableLimit < plan.joins.length + 1
  · exact Or.inl (if_pos tables)
  · have deep : nestingLimit < plan.nesting :=
      Nat.not_le.mp fun shallow => large ⟨Nat.not_lt.mp tables, shallow⟩
    exact Or.inr ((if_neg tables).trans (if_pos deep))

theorem Condition.wantsUnreadable_of_readable {condition : Condition}
    (readable : condition.unreadable? = none) : condition.wantsUnreadable = false := by
  rw [wantsUnreadable, readable]

theorem wantsUnreadable_of_free {plan : Plan}
    (free : ∀ words, .fullText words ∈ plan.conditions → FullText.Match.KeptNullFree words) :
    plan.wantsUnreadable = false := by
  rw [wantsUnreadable, List.any_eq_false]
  intro condition member
  cases condition with
  | fullText words =>
      rw [Condition.wantsUnreadable_of_readable (Condition.unreadable?_eq_none (free words member))]
      exact Bool.false_ne_true
  | hasTag _ _ | idIn _ | idNotIn _ | compare _ _ _ | language _ | anySourceName _
  | anySourceUrl _ | inSeries | visible => exact Bool.false_ne_true

/-- A plan within all limits is answered with its rows. -/
theorem evaluate_of_tame {plan : Plan} {database : Database} (present : database.missing = [])
    (fits : plan.Fits) (tame : ∀ condition ∈ plan.conditions, condition.Tame) :
    plan.evaluate database = .ok (plan.rows database.store) := by
  have accepted : plan.refusal? database = none := by
    apply refusal?_of_rows present fits (wantsUnreadable_of_free fun words => tame _)
    apply Or.inr
    intro archive _
    exact ⟨_, tryAll_of_tame fun condition member => tame condition (mem_of_mem_trialOrder member)⟩
  rw [evaluate, accepted]

end Plan
end Gallery
