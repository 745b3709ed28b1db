import Gallery.Proofs.Plan.Size
import Gallery.Proofs.Search.Answer

namespace Gallery
namespace Search

/-!
# Limits of a search

A search with all tables present fails only where it exceeds a limit of the engine.
Four of them can be read off the query and the options: the sizes of the patterns,
the characters of the title words, the number of tables and the nesting.  Searches
with few filters stay within the last two whatever the filters are, and a search
that counts the tags of many namespaces does not.
-/

/-- Whether a search stays within the limits of the engine. -/
structure WithinLimits (store : Store) (request : Request) (options : Options) : Prop where
  fits : (planOf store request options).Fits
  tags : ∀ filter ∈ (queryOf request options).tags, isLongPattern filter.pattern = false
  languages : ∀ pattern ∈ (Query.parse request.query).languages, isLongPattern pattern = false
  sources : ∀ pattern ∈ (Query.parse request.query).sources, isLongPattern pattern = false
  urls : ∀ text ∈ (Query.parse request.query).urls, isLongPattern (Plan.urlPattern text) = false
  title : FullText.Match.KeptNullFree (Query.parse request.query).title

/-- Within the limits no row is refused. -/
theorem WithinLimits.tame {store : Store} {request : Request} {options : Options}
    (within : WithinLimits store request options) :
    ∀ condition ∈ (planOf store request options).conditions, condition.Tame := by
  intro condition member
  cases origin_of_mem member with
  | @required filter parsed => exact within.tags filter (mem_queryOf_tags.mpr (Or.inl parsed))
  | title => exact within.title
  | @language pattern parsed => exact within.languages pattern parsed
  | sources => exact within.sources
  | urls => exact within.urls
  | visible | inSeries | ids _ | excluded | number _ _ _ => trivial

theorem WithinLimits.givesUp {database : Database} {request : Request} {options : Options}
    (within : WithinLimits database.store request options) :
    givesUp database request options = false := by
  apply givesUp_eq_false_iff.mpr
  intro filter member _
  rw [Database.givesUpOn, within.tags filter member, Bool.false_and]

/-- A search whose tags can be resolved has an answer if no row is refused. -/
theorem exists_listing_of_tame {database : Database} {request : Request} {options : Options}
    (present : database.missing = []) (accepted : givesUp database request options = false)
    (fits : (planOf database.store request options).Fits)
    (tame : ∀ condition ∈ (planOf database.store request options).conditions, condition.Tame)
    (site : Config.Site) :
    ∃ ids, (Engine.mk (.sqlite database) site).listing request options = .ok ids := by
  rw [Engine.listing_of_present present, accepted]
  split
  · exact ⟨_, rfl⟩
  split
  · exact absurd ‹_› Bool.false_ne_true
  split
  · exact ⟨_, rfl⟩
  · rw [Plan.evaluate_of_tame present fits tame]
    exact ⟨_, rfl⟩

/-- A search within the limits has an answer. -/
theorem exists_listing {database : Database} {request : Request} {options : Options}
    (present : database.missing = []) (within : WithinLimits database.store request options)
    (site : Config.Site) :
    ∃ ids, (Engine.mk (.sqlite database) site).listing request options = .ok ids :=
  exists_listing_of_tame present within.givesUp within.fits within.tame site

theorem exists_search {database : Database} {request : Request} {options : Options}
    (present : database.missing = []) (within : WithinLimits database.store request options)
    (site : Config.Site) :
    ∃ result, (Engine.mk (.sqlite database) site).search request options = .ok result := by
  rcases exists_listing present within site with ⟨ids, listed⟩
  rw [Engine.search_eq_listing, listed]
  exact ⟨resultOf request options ids, rfl⟩

/-! ## Searches of few filters -/

private theorem length_unlessEmpty_le {α : Type} (items : List α)
    (condition : List α → Plan.Condition) : (Plan.unlessEmpty items condition).length ≤ 1 := by
  rw [Plan.unlessEmpty]
  split
  · exact Nat.zero_le 1
  · exact Nat.le_refl 1

private theorem length_toList_le {α : Type} (item : Option α) : item.toList.length ≤ 1 := by
  cases item with
  | none => exact Nat.zero_le 1
  | some _ => exact Nat.le_refl 1

theorem length_conditions_planOf_le (store : Store) (request : Request) (options : Options) :
    (planOf store request options).conditions.length ≤
      (Query.parse request.query).tags.length + (Query.parse request.query).languages.length +
        (Query.parse request.query).numbers.length + 9 := by
  have fromRequest : (Plan.requestConditions request options).length ≤ 4 := by
    have allowed := length_toList_le (options.allowIds.map Plan.Condition.idIn)
    have listed := length_toList_le (request.ids.map Plan.Condition.idIn)
    rw [Plan.requestConditions, List.length_append, List.length_append, List.length_append]
    split <;> split <;> simp only [List.length_nil, List.length_singleton] <;> omega
  have required : ((Query.parse request.query).tags.filter (·.role = .required)).length ≤
      (Query.parse request.query).tags.length := List.length_filter_le _ _
  have excluded := length_unlessEmpty_le (resolved store request options).excluded .idNotIn
  have optional := length_toList_le ((resolved store request options).optional.map Plan.Condition.idIn)
  have words : (Plan.titleConditions (Query.parse request.query).title).length ≤ 1 := by
    rw [Plan.titleConditions]
    split
    · exact Nat.zero_le 1
    · exact Nat.le_refl 1
  have sources := length_unlessEmpty_le (Query.parse request.query).sources .anySourceName
  have urls := length_unlessEmpty_le (Query.parse request.query).urls .anySourceUrl
  have compared := List.length_filterMap_le Plan.numberCondition? (Query.parse request.query).numbers
  rw [conditions_planOf]
  simp only [List.length_append, List.length_map]
  omega

theorem width_planOf_le {store : Store} {request : Request} {options : Options}
    {condition : Plan.Condition} (member : condition ∈ (planOf store request options).conditions) :
    condition.width ≤
      (Query.parse request.query).sources.length + (Query.parse request.query).urls.length := by
  cases origin_of_mem member with
  | sources => exact Nat.le_add_right _ _
  | urls => exact Nat.le_add_left _ _
  | visible | inSeries | ids _ | required _ | excluded | title | language _ | number _ _ _ =>
      exact Nat.zero_le _

/-- A search with few filters has a statement that fits. -/
theorem fits_planOf {store : Store} {request : Request} {options : Options}
    (counts : (Query.parse request.query).numbers.length ≤ 62)
    (parts : (Query.parse request.query).tags.length + (Query.parse request.query).languages.length +
      (Query.parse request.query).sources.length + (Query.parse request.query).urls.length ≤ 800) :
    (planOf store request options).Fits := by
  have joins : (planOf store request options).joins.length ≤ 63 :=
    (Plan.length_joins_le _).trans (Nat.succ_le_succ counts)
  have having : (planOf store request options).having.length ≤ 62 := by
    have counted : (planOf store request options).having.length ≤
        (Query.parse request.query).numbers.length := by
      rw [planOf, Plan.ofQuery, List.length_map]
      exact Plan.length_countsFrom_le 0 _
    exact counted.trans counts
  have conditions := length_conditions_planOf_le store request options
  have nesting := Plan.nesting_le
    fun condition (member : condition ∈ (planOf store request options).conditions) =>
      width_planOf_le member
  have limit : nestingLimit = 1000 := rfl
  refine ⟨Nat.succ_le_succ joins, ?_⟩
  omega

/-- A search that counts too many namespaces is refused, unless it ends before its plan is
run. -/
theorem Engine.search_of_many_namespaces {database : Database} {request : Request}
    {options : Options} (present : database.missing = []) (site : Config.Site)
    (allowed : options.allowIds ≠ some []) (accepted : givesUp database request options = false)
    (carried : (resolved database.store request options).optional ≠ some [])
    (counts : ∀ filter ∈ (Query.parse request.query).numbers, Plan.CountsNamespace filter)
    (many : 62 < (Query.parse request.query).numbers.length) :
    (Engine.mk (.sqlite database) site).search request options =
      .error (.backend .tooManyTables) := by
  have joins : 64 ≤ (planOf database.store request options).joins.length :=
    (Nat.succ_le_succ many).trans (Plan.le_length_joins_of_namespaces counts
      (List.ne_nil_of_length_pos (Nat.zero_lt_of_lt many)))
  have limit : tableLimit = 64 := rfl
  have refused : (planOf database.store request options).refusal? database =
      some .tooManyTables := by
    rw [Plan.refusal?, Plan.refusal?_of_present present]
    exact if_pos (by omega)
  rw [Engine.search_eq_listing, Engine.listing_of_present present, if_neg allowed, accepted,
    if_neg Bool.false_ne_true, if_neg carried, Plan.evaluate, refused]
  rfl

end Search
end Gallery
