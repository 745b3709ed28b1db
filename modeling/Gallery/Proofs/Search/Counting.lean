import Gallery.Proofs.Search.Conjunction
import Gallery.Proofs.Search.Limits

namespace Gallery
namespace Search

/-!
# Queries of many parts

A query that counts the tags of many namespaces is a short way to a large statement.
Each count is read by itself, because the blank behind it ends it, and none replaces
another as long as no namespace is counted twice.  So such a query has as many number
filters as counts, and their number alone decides whether its search is answered.

A query that names a language many times is a short way to a deep statement, one level
for each time.
-/

/-! ## Many counts -/

/-- A query that counts the tags of namespaces with one letter each. -/
def countingQuery (letters : List Char) : String :=
  String.ofList (letters.flatMap fun letter => [letter, '>', '0', ' '])

/-- The number filters of such a query. -/
def countingFilters (letters : List Char) : List Query.NumberFilter :=
  letters.map fun letter => ⟨.namespaceCount (String.ofList [letter]), .greater, 0⟩

/-- Half of the letters, and the other half. -/
def someLetters : List Char :=
  ['a', 'b', 'c', 'd', 'e', 'f', 'g', 'h', 'i', 'j', 'k', 'l', 'm', 'n', 'o', 'p',
    'q', 'r', 's', 't', 'u', 'v', 'w', 'x', 'y', 'z', '0', '1', '2', '3', '4', '5']

def otherLetters : List Char :=
  ['A', 'B', 'C', 'D', 'E', 'F', 'G', 'H', 'I', 'J', 'K', 'L', 'M', 'N', 'O', 'P',
    'Q', 'R', 'S', 'T', 'U', 'V', 'W', 'X', 'Y', 'Z', '6', '7', '8', '9', '_']

/-! ### How they are read -/

/-- Counts of different namespaces do not meet. -/
theorem apart_of_disjoint {first second : List Char} (disjoint : ∀ letter ∈ first, letter ∉ second) :
    Query.Apart { numbers := countingFilters first } { numbers := countingFilters second } where
  subjects := by
    intro filter inFirst other inSecond same
    rcases List.mem_map.mp inFirst with ⟨letter, member, rfl⟩
    rcases List.mem_map.mp inSecond with ⟨another, inOther, rfl⟩
    simp only [Query.Subject.namespaceCount.injEq, String.ofList_inj, List.cons.injEq,
      and_true] at same
    exact disjoint letter member (same ▸ inOther)
  tags := Or.inl (List.forall_mem_nil _)
  sources := Or.inl rfl
  urls := Or.inl rfl
  words := Or.inl rfl

theorem both_countingFilters {first second : List Char}
    (disjoint : ∀ letter ∈ first, letter ∉ second) :
    Query.both { numbers := countingFilters first } { numbers := countingFilters second } =
      { numbers := countingFilters (first ++ second) } := by
  have numbers := (apart_of_disjoint disjoint).numbers_both
  simp only [Query.both] at numbers ⊢
  rw [numbers, countingFilters, countingFilters, countingFilters, List.map_append]
  rfl

theorem ofChars_count {letter : Char} (known : letter ∈ someLetters ++ otherLetters) :
    '"' ∉ [letter, '>', '0'] ∧
      Query.ofChars [letter, '>', '0'] = { numbers := countingFilters [letter] } := by
  have each : ((someLetters ++ otherLetters).all fun letter => '"' ∉ [letter, '>', '0'] ∧
      Query.ofChars [letter, '>', '0'] = { numbers := countingFilters [letter] }) = true := by
    decide +kernel
  exact of_decide_eq_true (List.all_eq_true.mp each letter known)

theorem someLetters_disjoint : ∀ letter ∈ someLetters, letter ∉ otherLetters := by
  have each : (someLetters.all fun letter => letter ∉ otherLetters) = true := by decide
  intro letter member
  exact of_decide_eq_true (List.all_eq_true.mp each letter member)

/-- A query of counts is read as the counts that it is made of. -/
theorem parse_countingQuery {letters : List Char} (distinct : letters.Nodup)
    (known : ∀ letter ∈ letters, letter ∈ someLetters ++ otherLetters) :
    Query.parse (countingQuery letters) = { numbers := countingFilters letters } := by
  rw [Query.parse, countingQuery, String.toList_ofList]
  induction letters with
  | nil => decide
  | cons letter others inductionHypothesis =>
      rcases List.nodup_cons.mp distinct with ⟨fresh, later⟩
      rcases ofChars_count (known letter List.mem_cons_self) with ⟨quoteFree, read⟩
      have readOthers := inductionHypothesis later fun other member =>
        known other (List.mem_cons_of_mem _ member)
      have disjoint : ∀ other ∈ [letter], other ∉ others := by
        intro other isLetter
        rw [List.mem_singleton.mp isLetter]
        exact fresh
      have split := Query.ofChars_append_blank
        (others.flatMap fun letter => [letter, '>', '0', ' ']) quoteFree
      rw [read, readOthers, both_countingFilters disjoint] at split
      exact split

/-! ### Whether they are answered -/

/-- A few counts alone are within all limits. -/
theorem withinLimits_of_few_counts {store : Store} {request : Request} {options : Options}
    {letters : List Char} (read : Query.parse request.query = { numbers := countingFilters letters })
    (unlisted : options.blacklist = []) (few : letters.length ≤ 62) :
    WithinLimits store request options where
  fits := by
    apply fits_planOf
    · rw [read, countingFilters, List.length_map]
      exact few
    · rw [read]
      exact Nat.zero_le 800
  tags := by rw [queryOf, read, unlisted]; exact List.forall_mem_nil _
  languages := by rw [read]; exact List.forall_mem_nil _
  sources := by rw [read]; exact List.forall_mem_nil _
  urls := by rw [read]; exact List.forall_mem_nil _
  title := by rw [read]; exact List.forall_mem_nil _

/-- Without a query and a blacklist a search is within all limits. -/
theorem withinLimits_of_no_query {store : Store} {request : Request} {options : Options}
    (noQuery : request.query = "") (unlisted : options.blacklist = []) :
    WithinLimits store request options := by
  have read : Query.parse request.query = { numbers := countingFilters [] } := by
    rw [noQuery, Query.parse_empty]
    rfl
  exact withinLimits_of_few_counts read unlisted (Nat.zero_le 62)

theorem countsNamespace_of_mem {letters : List Char} :
    ∀ filter ∈ countingFilters letters, Plan.CountsNamespace filter := by
  intro filter member
  rcases List.mem_map.mp member with ⟨letter, _, rfl⟩
  exact ⟨_, rfl⟩

/-- Too many counts alone exceed the limit on tables. -/
theorem Engine.search_of_many_counts {database : Database} {request : Request}
    {options : Options} {letters : List Char} (present : database.missing = [])
    (site : Config.Site) (allowed : options.allowIds ≠ some []) (unlisted : options.blacklist = [])
    (read : Query.parse request.query = { numbers := countingFilters letters })
    (many : 62 < letters.length) :
    (Engine.mk (.sqlite database) site).search request options =
      .error (.backend .tooManyTables) := by
  have tagless : (queryOf request options).tags = [] := by
    rw [queryOf, read, unlisted]
    rfl
  apply Engine.search_of_many_namespaces present site allowed
  · rw [givesUp, tagless]
    rfl
  · rw [resolved, tagless]
    exact (Option.some_ne_none []).symm
  · rw [read]
    exact countsNamespace_of_mem
  · rw [read, countingFilters, List.length_map]
    exact many

/-! ## Many languages -/

/-- The tokens that the queries below are made of. -/
theorem parse_tokens :
    Query.parse "~artist:jane" = { tags := [⟨"artist", "jane%", .optional⟩] } ∧
      Query.parse "language:en" = { languages := ["en"] } := by
  decide +kernel

/-- A search for an optional tag and for one language, which is named many times. -/
def languageQuery : Nat → String
  | 0 => "~artist:jane"
  | count + 1 => "language:en" ++ " " ++ languageQuery count

theorem parse_languageQuery (count : Nat) :
    Query.parse (languageQuery count) =
      { tags := [⟨"artist", "jane%", .optional⟩], languages := List.replicate count "en" } := by
  induction count with
  | zero => exact parse_tokens.1
  | succ count inductionHypothesis =>
      rw [languageQuery, Query.parse_append_blank _ (by decide), parse_tokens.2,
        inductionHypothesis]
      rfl

/-- The plan of such a search for archives with one of the given ids. -/
def languagePlan (ids : List Int64) (count : Nat) : Plan where
  conditions := .visible :: .idIn ids :: List.replicate count (.language "en")
  joins := []
  having := []
  key := Request.key {}
  direction := Request.direction {}

theorem listing_languageQuery {database : Database} {ids : List Int64} (count : Nat)
    (present : database.missing = [])
    (carried : database.store.resolutionOf [⟨"artist", "jane%", .optional⟩] =
      { optional := some ids }) (nonempty : ids ≠ []) :
    (Engine.mk (.sqlite database) {}).listing { query := languageQuery count } {} =
      match (languagePlan ids count).evaluate database with
      | .ok rows =>
          .ok ((arrange .sqlite { query := languageQuery count } rows).map Prod.fst)
      | .error refusal => .error (.backend refusal) := by
  have query : queryOf { query := languageQuery count } {} =
      { tags := [⟨"artist", "jane%", .optional⟩], languages := List.replicate count "en" } := by
    rw [queryOf, parse_languageQuery]
    rfl
  have resolved : resolved database.store { query := languageQuery count } {} =
      { optional := some ids } := by
    rw [resolved, query, carried]
  have plan : planOf database.store { query := languageQuery count } {} =
      languagePlan ids count := by
    have wordless : Query.TitleWords.isEmpty {} = true := rfl
    rw [planOf, resolved, query, languagePlan, ← List.map_replicate]
    simp [Plan.ofQuery, Plan.requestConditions, Plan.tagConditions, Plan.textConditions,
      Plan.unlessEmpty, Plan.countsFrom, wordless]
  have accepted : givesUp database { query := languageQuery count } {} = false := by
    apply givesUp_eq_false_iff.mpr
    rw [query]
    intro filter member _
    rw [List.mem_singleton.mp member, Database.givesUpOn]
    rfl
  have given : (some ids : Option (List Int64)) ≠ some [] := fun empty =>
    nonempty (Option.some.inj empty)
  rw [Engine.listing_of_present present, accepted, resolved, plan, if_neg given]
  rfl

/-- The plan nests once for each naming of the language, and once more for one negative id. -/
theorem nesting_languagePlan (ids : List Int64) (count : Nat) :
    (languagePlan ids count).nesting = max 3 (Plan.idListHeight ids) + 1 + count := by
  have heights : (languagePlan ids count).conditions.filterMap Plan.Condition.height? =
      3 :: [Plan.idListHeight ids] ++ List.replicate count 3 := by
    have language : Plan.Condition.height? (.language "en") = some 3 := rfl
    simp [languagePlan, Plan.Condition.height?, List.filterMap_replicate_of_some language]
  have inner : ((languagePlan ids count).conditions.map
      Plan.Condition.innerHeight).foldl max 0 = 0 := by
    refine Nat.le_zero.mp (Plan.foldl_max_le (fun part member => ?_) (Nat.le_refl 0))
    simp only [languagePlan, List.map_cons, List.map_replicate, List.mem_cons,
      List.mem_replicate, Plan.Condition.innerHeight] at member
    omega
  have joins : (languagePlan ids count).joins = [] := rfl
  have having : (languagePlan ids count).having = [] := rfl
  have low : 3 ≤ Plan.chainHeight (3 :: [Plan.idListHeight ids]) :=
    Nat.le_succ_of_le (Nat.le_max_left 3 _)
  rw [Plan.nesting, Plan.treeHeight, heights, inner, joins, having]
  change max (Plan.chainHeight (3 :: [Plan.idListHeight ids] ++ List.replicate count 3 ++ [])) 0 = _
  rw [List.append_nil, Plan.chainHeight_append_replicate low, Nat.max_zero]
  rfl

/-- Where no archive has a language, such a search finds nothing. -/
theorem evaluate_languagePlan {database : Database} {ids : List Int64} {count : Nat}
    (present : database.missing = [])
    (shallow : (languagePlan ids (count + 1)).nesting ≤ nestingLimit)
    (silent : ∀ archive ∈ database.store.archives, archive.language = none) :
    (languagePlan ids (count + 1)).evaluate database = .ok [] := by
  have tame : ∀ condition ∈ (languagePlan ids (count + 1)).conditions, condition.Tame := by
    intro condition member
    simp only [languagePlan, List.mem_cons, List.mem_replicate] at member
    rcases member with rfl | rfl | ⟨_, rfl⟩
    · trivial
    · trivial
    · rfl
  have none : (languagePlan ids (count + 1)).select database.store = [] := by
    rw [Plan.select, List.filter_eq_nil_iff.mpr, List.mergeSort_nil]
    intro archive member holds
    rw [Plan.holds, Bool.and_eq_true, List.all_eq_true] at holds
    have spoken := holds.1 (.language "en") (by simp [languagePlan])
    rw [Plan.Condition.holds, silent archive member] at spoken
    cases spoken
  have fits : (languagePlan ids (count + 1)).Fits := ⟨show 0 + 1 ≤ 64 by omega, shallow⟩
  rw [Plan.evaluate_of_tame present fits tame, Plan.rows, none]
  rfl

end Search
end Gallery
