import Gallery.Proofs.Search.Deleted
import Gallery.Proofs.Search.Ranking
import Gallery.Proofs.Text.Entries

namespace Gallery

open Database (oneArchive)

/-!
# Blacklists

The entries of a blacklist join the excluded tags of the query, so they share its
resolution, its condition and its limits.  A longer blacklist therefore changes three
things about a search.  It excludes more archives; where nothing was excluded before,
it adds one condition to the statement; and its own patterns may be too long.  The
first takes the archives that carry a tag of the new entries out of the listing and
leaves the others in their order.  The other two are the only ways in which a search
that was answered can be refused.

The condition on excluded archives is tried before other tables are looked at and is
never refused itself, so no row is refused that was not refused before.
-/

namespace Store

open Query (TagFilter)

theorem contains_carriersOf (store : Store) (filters : List TagFilter) (id : Int64) :
    (store.carriersOf filters).contains id =
      filters.any fun filter => store.carries id filter.matchesTag := by
  rw [Bool.eq_iff_iff, List.contains_iff_mem, mem_carriersOf_iff, List.any_eq_true]

/-- What filters are resolved to depends on which filters there are, and on nothing else. -/
theorem carriersOf_congr (store : Store) {first second : List TagFilter}
    (same : ∀ meets : TagFilter → Bool, first.any meets = second.any meets) :
    store.carriersOf first = store.carriersOf second := by
  have found : ∀ filters : List TagFilter, ∀ tag : Int64,
      (filters.map fun filter => (store.tags.filter filter.matchesTag).map
        Listing.Tag.id).flatten.contains tag =
      filters.any fun filter => ((store.tags.filter filter.matchesTag).map
        Listing.Tag.id).contains tag := by
    intro filters tag
    rw [Bool.eq_iff_iff, List.contains_iff_mem, ← List.flatMap_def, List.mem_flatMap,
      List.any_eq_true]
    simp only [List.contains_iff_mem]
  simp only [carriersOf, found, same]

/-- Whether an archive carries a tag that an entry of a blacklist excludes.  An entry
that is no filter excludes nothing. -/
def barred (store : Store) (entries : List String) (id : Int64) : Bool :=
  (entries.filterMap TagFilter.ofBlacklistEntry?).any fun filter =>
    store.carries id filter.matchesTag

theorem barred_eq_false_iff (store : Store) (entries : List String) (id : Int64) :
    store.barred entries id = false ↔
      ∀ entry ∈ entries, ∀ filter, TagFilter.ofBlacklistEntry? entry = some filter →
        store.carries id filter.matchesTag = false := by
  simp only [barred, List.any_eq_false, List.mem_filterMap, Bool.not_eq_true]
  constructor
  · intro each entry member filter read
    exact each filter ⟨entry, member, read⟩
  · rintro each filter ⟨entry, member, read⟩
    exact each entry member filter read

end Store

/-! ## Entries -/

namespace Text

/-- A text has at least one octet for each character. -/
theorem length_le_utf8ByteSize (text : List Char) :
    text.length ≤ (String.ofList text).utf8ByteSize := by
  induction text with
  | nil => exact Nat.zero_le _
  | cons c rest inductionHypothesis =>
      have split : String.ofList ([c] ++ rest) = String.ofList [c] ++ String.ofList rest :=
        String.ofList_append
      have one : 0 < (String.ofList [c]).utf8ByteSize := by
        refine Nat.pos_of_ne_zero fun zero => ?_
        have empty := congrArg String.toList (String.utf8ByteSize_eq_zero_iff.mp zero)
        rw [String.toList_ofList] at empty
        cases empty
      rw [← List.singleton_append, split, String.utf8ByteSize_append, List.length_append,
        List.length_singleton]
      omega

end Text

namespace Query

/-- How an entry with a colon is read: what stands before the first colon is the
namespace, and all that follows it is the name. -/
theorem TagFilter.ofBlacklistEntry?_scoped {entry : String} {scope name : List Char}
    (written : Text.trim entry.toList = scope ++ ':' :: name) (colonFree : ':' ∉ scope)
    (hasScope : scope ≠ []) (hasName : name ≠ []) :
    ofBlacklistEntry? entry = some ⟨String.ofList scope, String.ofList name, .excluded⟩ := by
  have before : ∀ c ∈ scope, decide (c ≠ ':') = true := fun c member =>
    decide_eq_true fun isColon => colonFree (isColon ▸ member)
  have taken : (scope ++ ':' :: name).takeWhile (· ≠ ':') = scope := by
    rw [List.takeWhile_append_of_pos before, List.takeWhile_cons_of_neg (by simp), List.append_nil]
  have dropped : (scope ++ ':' :: name).dropWhile (· ≠ ':') = ':' :: name := by
    rw [List.dropWhile_append_of_pos before, List.dropWhile_cons_of_neg (by simp)]
  simp only [TagFilter.ofBlacklistEntry?, written, taken, dropped, List.isEmpty_iff, if_neg hasScope,
    if_neg hasName]

end Query

namespace Search

open Plan (Condition SidesJoin)
open Query (TagFilter)
open Store (Archive)

/-- The options with another blacklist. -/
def Options.withBlacklist (options : Options) (entries : List String) : Options :=
  { options with blacklist := entries }

section Longer

variable {store : Store} {request : Request} {options : Options} {entries further : List String}

/-- Further entries are further excluded tags. -/
theorem filter_excluded_append :
    (queryOf request (options.withBlacklist (entries ++ further))).tags.filter
        (·.role = .excluded) =
      (queryOf request (options.withBlacklist entries)).tags.filter (·.role = .excluded) ++
        further.filterMap TagFilter.ofBlacklistEntry? := by
  have all_excluded : (further.filterMap TagFilter.ofBlacklistEntry?).filter
      (·.role = .excluded) = further.filterMap TagFilter.ofBlacklistEntry? := by
    apply List.filter_eq_self.mpr
    intro filter member
    rcases List.mem_filterMap.mp member with ⟨entry, _, read⟩
    exact decide_eq_true (role_of_blacklistEntry read)
  simp only [queryOf, Options.withBlacklist, List.filterMap_append, List.filter_append,
    all_excluded, List.append_assoc]

theorem contains_excluded_append (id : Int64) :
    (resolved store request (options.withBlacklist (entries ++ further))).excluded.contains id =
      ((resolved store request (options.withBlacklist entries)).excluded.contains id ||
        store.barred further id) := by
  simp only [resolved, Store.resolutionOf, filter_excluded_append, Store.contains_carriersOf,
    List.any_append, Store.barred]

/-- A blacklist has no part in the optional tags. -/
theorem filter_optional_withBlacklist (entries : List String) :
    (queryOf request (options.withBlacklist entries)).tags.filter (·.role = .optional) =
      (Query.parse request.query).tags.filter (·.role = .optional) :=
  filter_role_queryOf request _ (by decide)

theorem optional_withBlacklist (entries : List String) :
    (resolved store request (options.withBlacklist entries)).optional =
      (resolved store request options).optional := by
  rw [optional_resolved, optional_resolved]

/-- The archives that further entries exclude, as tags that have been resolved. -/
def resolvedEntries (store : Store) (further : List String) : Resolution where
  excluded := store.carriersOf (further.filterMap TagFilter.ofBlacklistEntry?)
  optional := none

/-- The conditions of a longer blacklist are those of the shorter one and one on the
archives that the further entries exclude. -/
theorem sidesJoin_append (archive : Archive) :
    SidesJoin store archive (planOf store request (options.withBlacklist entries)).conditions
      (idConditions (resolvedEntries store further))
      (planOf store request (options.withBlacklist (entries ++ further))).conditions := by
  have merged : (resolved store request
      (options.withBlacklist (entries ++ further))).excluded.contains archive.id =
      ((resolved store request (options.withBlacklist entries)).excluded.contains archive.id ||
        (resolvedEntries store further).excluded.contains archive.id) := by
    rw [contains_excluded_append, resolvedEntries, Store.contains_carriersOf, Store.barred]
  have onIds : SidesJoin store archive
      (idConditions (resolved store request (options.withBlacklist entries)))
      (idConditions (resolvedEntries store further))
      (idConditions (resolved store request (options.withBlacklist (entries ++ further)))) := by
    rw [idConditions, idConditions, idConditions, optional_withBlacklist, optional_withBlacklist]
    exact (Plan.sidesJoin_idNotIn merged).append (SidesJoin.left _)
  have joined := ((SidesJoin.left (conditionsBefore request (options.withBlacklist entries))).append
    onIds).append (SidesJoin.left (conditionsAfter request))
  rw [List.nil_append, List.append_nil] at joined
  rw [conditions_planOf_eq, conditions_planOf_eq]
  exact joined

/-- A plan with a longer blacklist holds of the archives that the further entries do not
exclude. -/
theorem holds_planOf_append (archive : Archive) :
    (planOf store request (options.withBlacklist (entries ++ further))).holds store archive =
      ((planOf store request (options.withBlacklist entries)).holds store archive &&
        !store.barred further archive.id) := by
  have conditions : ((planOf store request
      (options.withBlacklist (entries ++ further))).conditions.all fun condition =>
        condition.holds store archive) =
      (((planOf store request (options.withBlacklist entries)).conditions.all fun condition =>
        condition.holds store archive) && !store.barred further archive.id) := by
    have before : conditionsBefore request (options.withBlacklist (entries ++ further)) =
        conditionsBefore request (options.withBlacklist entries) := rfl
    rw [conditions_planOf_eq, conditions_planOf_eq, before]
    simp only [List.all_append, all_idConditions, optional_withBlacklist, contains_excluded_append,
      Bool.not_or]
    cases store.barred further archive.id <;>
      simp only [Bool.not_true, Bool.not_false, Bool.and_true, Bool.and_false, Bool.false_and]
  have counts : (planOf store request (options.withBlacklist (entries ++ further))).having =
      (planOf store request (options.withBlacklist entries)).having := rfl
  have joins : (planOf store request (options.withBlacklist (entries ++ further))).joins =
      (planOf store request (options.withBlacklist entries)).joins := rfl
  rw [Plan.holds, Plan.holds, conditions, counts, joins, Bool.and_right_comm]

/-- What a plan asks of its conditions, whatever is excluded, does not depend on the
blacklist. -/
theorem any_conditions_withBlacklist {property : Condition → Bool}
    (ofNotIn : ∀ ids, property (.idNotIn ids) = false) (entries : List String) :
    (planOf store request (options.withBlacklist entries)).conditions.any property =
      (planOf store request options).conditions.any property := by
  rw [any_conditions_planOf ofNotIn, any_conditions_planOf ofNotIn, optional_withBlacklist]
  rfl

/-- A longer blacklist leaves the order of the other archives as it is. -/
theorem directedArchives_append (keyed : store.Keyed) (direction : Direction) :
    directedArchives request (options.withBlacklist (entries ++ further)) store direction =
      (directedArchives request (options.withBlacklist entries) store direction).filter
        fun archive => !store.barred further archive.id := by
  apply eq_of_strict (directedArchives_strict request _ keyed direction)
    ((directedArchives_strict request _ keyed direction).filter _)
  refine (directedArchives_perm direction).trans ?_
  refine List.Perm.trans (List.Perm.of_eq ?_) ((directedArchives_perm direction).symm.filter _)
  rw [List.filter_filter]
  apply List.filter_congr
  intro archive _
  rw [holds_planOf_append, Bool.and_comm]

end Longer

/-! ## Refusals -/

section Refusals

variable {database : Database} {request : Request} {options : Options}
  {entries further : List String}

/-- A database gives up on a longer blacklist if it does on the shorter one or on a
further entry. -/
theorem givesUp_append :
    givesUp database request (options.withBlacklist (entries ++ further)) =
      (givesUp database request (options.withBlacklist entries) ||
        (further.filterMap TagFilter.ofBlacklistEntry?).any database.givesUpOn) := by
  rw [givesUp, givesUp, filter_excluded_append, List.any_append, filter_optional_withBlacklist,
    filter_optional_withBlacklist, Bool.or_right_comm]

/-- If the plan of a blacklist is answered, that of a longer one is refused only for its
nesting. -/
theorem refusal?_planOf_append {rows : List (Int64 × String)} (present : database.missing = [])
    (answered : (planOf database.store request (options.withBlacklist entries)).evaluate database =
      .ok rows) :
    (planOf database.store request (options.withBlacklist (entries ++ further))).refusal? database =
        none ∨
      (planOf database.store request (options.withBlacklist (entries ++ further))).refusal?
          database = some .tooDeep ∧
        nestingLimit < (planOf database.store request
          (options.withBlacklist (entries ++ further))).nesting := by
  have accepted := Plan.refusal?_of_evaluate answered
  have selects : (planOf database.store request
      (options.withBlacklist (entries ++ further))).selectsNothing =
      (planOf database.store request (options.withBlacklist entries)).selectsNothing := by
    rw [Bool.eq_iff_iff, selectsNothing_planOf_iff, selectsNothing_planOf_iff,
      optional_withBlacklist, optional_withBlacklist]
    rfl
  have starts : (planOf database.store request
      (options.withBlacklist (entries ++ further))).startsAtIndex =
      (planOf database.store request (options.withBlacklist entries)).startsAtIndex :=
    congrArg Bool.not ((any_conditions_withBlacklist (fun _ => rfl) _).trans
      (any_conditions_withBlacklist (fun _ => rfl) _).symm)
  have unreadable : (planOf database.store request
      (options.withBlacklist (entries ++ further))).wantsUnreadable =
      (planOf database.store request (options.withBlacklist entries)).wantsUnreadable :=
    (any_conditions_withBlacklist (fun _ => rfl) _).trans
      (any_conditions_withBlacklist (fun _ => rfl) _).symm
  have joins : (planOf database.store request (options.withBlacklist (entries ++ further))).joins =
      (planOf database.store request (options.withBlacklist entries)).joins := rfl
  rw [Plan.refusal?, Plan.refusal?_of_present present] at accepted ⊢
  simp only [joins, selects, starts, unreadable] at accepted ⊢
  split at accepted
  · cases accepted
  rename_i tables
  split at accepted
  · cases accepted
  rw [if_neg tables]
  by_cases deep : nestingLimit < (planOf database.store request
      (options.withBlacklist (entries ++ further))).nesting
  · exact Or.inr ⟨if_pos deep, deep⟩
  left
  rw [if_neg deep]
  split at accepted
  · exact if_pos ‹_›
  rename_i tries
  split at accepted
  · cases accepted
  rename_i readable
  rw [if_neg tries, if_neg readable]
  apply List.findSome?_eq_none_iff.mpr
  intro archive member
  rw [Plan.rowRefusal?_eq_none_iff]
  have tried := List.findSome?_eq_none_iff.mp accepted archive member
  rcases (Plan.rowRefusal?_eq_none_iff _ _ _).mp tried with ⟨answer, triedShorter⟩
  have tame : ∀ condition ∈ Plan.trialOrder (idConditions (resolvedEntries database.store further)),
      condition.Tame := fun condition member =>
    tame_idConditions (Plan.mem_of_mem_trialOrder member)
  exact ⟨_, (sidesJoin_append archive).trialOrder _ _ triedShorter (Plan.tryAll_of_tame tame)⟩

/-- Where a listing is answered, so is the one with a longer blacklist, unless a pattern of
a further entry is too long or the statement becomes too deep. -/
theorem Engine.exists_listing_append {ids : List Int64} (present : database.missing = [])
    (site : Config.Site)
    (listed : (Engine.mk (.sqlite database) site).listing request (options.withBlacklist entries) =
      .ok ids) :
    (∃ longer, (Engine.mk (.sqlite database) site).listing request
        (options.withBlacklist (entries ++ further)) = .ok longer) ∨
      (Engine.mk (.sqlite database) site).listing request
          (options.withBlacklist (entries ++ further)) = .error (.backend .longPattern) ∧
        (∃ filter ∈ further.filterMap TagFilter.ofBlacklistEntry?,
          isLongPattern filter.pattern = true) ∨
      (Engine.mk (.sqlite database) site).listing request
          (options.withBlacklist (entries ++ further)) = .error (.backend .tooDeep) ∧
        nestingLimit < (planOf database.store request
          (options.withBlacklist (entries ++ further))).nesting := by
  have allowIds : (options.withBlacklist (entries ++ further)).allowIds = options.allowIds := rfl
  rw [Engine.listing_eq_arrangedIds present, allowIds, givesUp_append]
  by_cases allowed : options.allowIds = some []
  · rw [if_pos allowed]
    exact Or.inl ⟨_, rfl⟩
  have known := Engine.of_listing present listed allowed
  rw [if_neg allowed, known.1, Bool.false_or]
  cases long : (further.filterMap TagFilter.ofBlacklistEntry?).any database.givesUpOn with
  | true =>
      rcases List.any_eq_true.mp long with ⟨filter, member, givesUp⟩
      exact Or.inr (Or.inl ⟨rfl, filter, member, (Bool.and_eq_true_iff.mp givesUp).1⟩)
  | false =>
      rw [if_neg Bool.false_ne_true]
      split
      · exact Or.inl ⟨_, rfl⟩
      rename_i some_carried
      rw [optional_withBlacklist, ← optional_withBlacklist entries] at some_carried
      rcases known.2.resolve_left some_carried with ⟨rows, evaluated⟩
      rcases refusal?_planOf_append present evaluated with unrefused | ⟨refused, deep⟩
      · rw [unrefused]
        exact Or.inl ⟨_, rfl⟩
      · rw [refused]
        exact Or.inr (Or.inr ⟨rfl, deep⟩)

/-- A longer blacklist takes archives out of a listing and leaves it in its order. -/
theorem Engine.eq_filter_of_listing_append {ids longer : List Int64}
    (present : database.missing = []) (keyed : database.store.Keyed)
    (unshuffled : request.key = .random → request.seed = none) {site : Config.Site}
    (listed : (Engine.mk (.sqlite database) site).listing request (options.withBlacklist entries) =
      .ok ids)
    (listedLonger : (Engine.mk (.sqlite database) site).listing request
      (options.withBlacklist (entries ++ further)) = .ok longer) :
    longer = ids.filter fun id => !database.store.barred further id := by
  have before := (Engine.listing_directed present unshuffled site request.direction).symm.trans
    listed
  have after := (Engine.listing_directed present unshuffled site request.direction).symm.trans
    listedLonger
  have allowIds : ∀ blacklist, (options.withBlacklist blacklist).allowIds = options.allowIds :=
    fun _ => rfl
  rw [allowIds, optional_withBlacklist] at before after
  by_cases allowed : options.allowIds = some []
  · rw [if_pos allowed] at before after
    rw [← Except.ok.inj before, ← Except.ok.inj after, List.filter_nil]
  rw [if_neg allowed] at before after
  split at before
  · cases before
  split at after
  · cases after
  by_cases none_carries : (resolved database.store request options).optional = some []
  · rw [if_pos none_carries] at before after
    rw [← Except.ok.inj before, ← Except.ok.inj after, List.filter_nil]
  rw [if_neg none_carries] at before after
  split at before
  · cases before
  split at after
  · cases after
  rw [← Except.ok.inj before, ← Except.ok.inj after, directedArchives_append keyed, List.filter_map]
  rfl

end Refusals

/-! ## What a blacklist does -/

/-- Blacklists with the same filters.  Neither the order of entries matters for this, nor
how often they are repeated, nor entries that are no filters. -/
def SameFilters (first second : List String) : Prop :=
  ∀ filter, filter ∈ first.filterMap TagFilter.ofBlacklistEntry? ↔
    filter ∈ second.filterMap TagFilter.ofBlacklistEntry?

section Same

variable {database : Database} {request : Request} {options : Options} {first second : List String}

theorem any_excluded_of_same (same : SameFilters first second) (meets : TagFilter → Bool) :
    ((queryOf request (options.withBlacklist first)).tags.filter (·.role = .excluded)).any meets =
      ((queryOf request (options.withBlacklist second)).tags.filter (·.role = .excluded)).any
        meets := by
  have members : ∀ filter, filter ∈ (queryOf request (options.withBlacklist first)).tags ↔
      filter ∈ (queryOf request (options.withBlacklist second)).tags := by
    intro filter
    rw [queryOf, queryOf, List.mem_append, List.mem_append]
    exact or_congr_right (same filter)
  rw [Bool.eq_iff_iff, List.any_eq_true, List.any_eq_true]
  simp only [List.mem_filter, members]

/-- Blacklists with the same filters give one plan. -/
theorem planOf_of_same (same : SameFilters first second) (store : Store) :
    planOf store request (options.withBlacklist first) =
      planOf store request (options.withBlacklist second) := by
  have excluded : (resolved store request (options.withBlacklist first)).excluded =
      (resolved store request (options.withBlacklist second)).excluded :=
    store.carriersOf_congr (any_excluded_of_same same)
  have conditions : (planOf store request (options.withBlacklist first)).conditions =
      (planOf store request (options.withBlacklist second)).conditions := by
    rw [conditions_planOf_eq, conditions_planOf_eq, idConditions, idConditions, excluded,
      optional_withBlacklist, optional_withBlacklist]
    rfl
  exact eq_withConditions conditions

/-- Blacklists with the same filters give the same answer, or the same refusal. -/
theorem Engine.search_of_same (present : database.missing = []) (same : SameFilters first second)
    (site : Config.Site) :
    (Engine.mk (.sqlite database) site).search request (options.withBlacklist first) =
      (Engine.mk (.sqlite database) site).search request (options.withBlacklist second) := by
  have gaveUp : givesUp database request (options.withBlacklist first) =
      givesUp database request (options.withBlacklist second) := by
    rw [givesUp, givesUp, any_excluded_of_same same, filter_optional_withBlacklist,
      filter_optional_withBlacklist]
  rw [Engine.search_eq_listing, Engine.search_eq_listing, Engine.listing_of_present present,
    Engine.listing_of_present present, gaveUp, planOf_of_same same, optional_withBlacklist,
    optional_withBlacklist]
  rfl

end Same

/-- A longer blacklist takes out of a listing the archives that carry a tag of the further
entries, and nothing else happens to it, unless a pattern of them is too long or the
statement becomes too deep.  Blacklists with the same filters are the same to a search. -/
theorem blacklist_only_filters {database : Database} (site : Config.Site) (request : Request)
    (options : Options) (present : database.missing = []) (keyed : database.store.Keyed)
    (whole : options.skipPagination = true)
    (unshuffled : request.key = .random → request.seed = none) (entries further : List String) :
    (∀ result, (Engine.mk (.sqlite database) site).search request
        (options.withBlacklist entries) = .ok result →
      (Engine.mk (.sqlite database) site).search request
          (options.withBlacklist (entries ++ further)) =
          .ok {
            ids := result.ids.filter fun id => !database.store.barred further id
            total := (result.ids.filter fun id => !database.store.barred further id).length } ∨
        (Engine.mk (.sqlite database) site).search request
            (options.withBlacklist (entries ++ further)) = .error (.backend .longPattern) ∧
          (∃ filter ∈ further.filterMap TagFilter.ofBlacklistEntry?,
            isLongPattern filter.pattern = true) ∨
        (Engine.mk (.sqlite database) site).search request
            (options.withBlacklist (entries ++ further)) = .error (.backend .tooDeep) ∧
          nestingLimit < (planOf database.store request
            (options.withBlacklist (entries ++ further))).nesting) ∧
    ∀ others, SameFilters entries others →
      (Engine.mk (.sqlite database) site).search request (options.withBlacklist others) =
        (Engine.mk (.sqlite database) site).search request (options.withBlacklist entries) := by
  refine ⟨fun result answered => ?_, fun others same => (Engine.search_of_same present same site).symm⟩
  have wholeToo : (options.withBlacklist entries).skipPagination = true := whole
  rcases exists_listing_of_search wholeToo answered with ⟨ids, listed, rfl⟩
  have shown : ∀ ids, resultOf request (options.withBlacklist (entries ++ further)) ids =
      ⟨ids, ids.length⟩ := fun ids => by rw [resultOf, Options.withBlacklist, whole, if_pos rfl]
  rw [Engine.search_eq_listing]
  rcases Engine.exists_listing_append present site listed with
      ⟨longer, answeredLonger⟩ | ⟨refused, long⟩ | ⟨refused, deep⟩
  · rw [answeredLonger, Engine.eq_filter_of_listing_append present keyed unshuffled listed
      answeredLonger]
    exact Or.inl (congrArg Except.ok (shown _))
  · rw [refused]
    exact Or.inr (Or.inl ⟨rfl, long⟩)
  · rw [refused]
    exact Or.inr (Or.inr ⟨rfl, deep⟩)

/-- A further entry takes the archive out that carries its tag by the name that is shown; an
entry that is no filter and one for another namespace leave it in. -/
theorem oneArchive_blacklisted :
    oneArchive.missing = [] ∧ oneArchive.store.Keyed ∧
      ∃ result, (Engine.mk (.sqlite oneArchive) {}).search {}
          (Options.withBlacklist { skipPagination := true } ["circle:jane"]) = .ok result ∧
        1 ∈ result.ids ∧ oneArchive.store.barred ["artist:foo"] 1 = true ∧
        (Engine.mk (.sqlite oneArchive) {}).search {}
            (Options.withBlacklist { skipPagination := true } (["circle:jane"] ++ ["artist:foo"])) =
          .ok {
            ids := result.ids.filter fun id => !oneArchive.store.barred ["artist:foo"] id
            total := (result.ids.filter fun id =>
              !oneArchive.store.barred ["artist:foo"] id).length } ∧
        (Engine.mk (.sqlite oneArchive) {}).search {}
            (Options.withBlacklist { skipPagination := true } ["artist:", "circle:jane"]) =
          .ok result := by
  have present : oneArchive.missing = [] := rfl
  have keyed := Database.reachable_oneArchive.keyed
  have filters := blacklist_only_filters {} {} { skipPagination := true } present keyed rfl
    (fun shuffled => by cases shuffled) ["circle:jane"] ["artist:foo"]
  have answered : (Engine.mk (.sqlite oneArchive) {}).search {}
      (Options.withBlacklist { skipPagination := true } ["circle:jane"]) = .ok ⟨[1], 1⟩ := by
    decide +kernel
  have answeredToo : (Engine.mk (.sqlite oneArchive) {}).search {}
      (Options.withBlacklist { skipPagination := true } (["circle:jane"] ++ ["artist:foo"])) =
        .ok ⟨[], 0⟩ := by decide +kernel
  have same : SameFilters ["circle:jane"] ["artist:", "circle:jane"] := by
    have equal : ["circle:jane"].filterMap TagFilter.ofBlacklistEntry? =
        ["artist:", "circle:jane"].filterMap TagFilter.ofBlacklistEntry? := by decide +kernel
    intro filter
    rw [equal]
  refine ⟨present, keyed, _, answered, List.mem_cons_self, by decide +kernel, ?_,
    (filters.2 _ same).trans answered⟩
  rcases filters.1 _ answered with filtered | ⟨refused, _⟩ | ⟨refused, _⟩
  · exact filtered
  · cases refused.symm.trans answeredToo
  · cases refused.symm.trans answeredToo

/-- An entry with a name of so many letters. -/
def letterEntry (count : Nat) : String :=
  String.ofList ("artist".toList ++ ':' :: List.replicate count 'a')

theorem read_letterEntry {count : Nat} (nonzero : count ≠ 0) :
    TagFilter.ofBlacklistEntry? (letterEntry count) =
      some ⟨"artist", String.ofList (List.replicate count 'a'), .excluded⟩ := by
  have letters : (letterEntry count).toList = "artist".toList ++ ':' :: List.replicate count 'a' :=
    String.toList_ofList
  have trimmed : Text.trim (letterEntry count).toList =
      "artist".toList ++ ':' :: List.replicate count 'a' := by
    rw [letters]
    apply Text.trim_of_not_blank
    intro c member
    rcases List.mem_append.mp member with inScope | inName
    · have none_blank : "artist".toList.any Text.isBlank = false := by decide
      exact Bool.eq_false_iff.mpr (List.any_eq_false.mp none_blank c inScope)
    · rcases List.mem_cons.mp inName with rfl | inName
      · decide
      · rw [List.eq_of_mem_replicate inName]
        decide
  exact TagFilter.ofBlacklistEntry?_scoped trimmed (by decide) (by decide)
    (List.ne_nil_of_length_pos (List.length_replicate ▸ Nat.pos_of_ne_zero nonzero))

/-- A search is refused for a single entry that is too long, though it is answered without
the entry. -/
theorem long_entry_is_refused :
    oneArchive.missing = [] ∧ oneArchive.store.Keyed ∧
      (Engine.mk (.sqlite oneArchive) {}).search {}
        (Options.withBlacklist { skipPagination := true } []) = .ok ⟨[1], 1⟩ ∧
      (Engine.mk (.sqlite oneArchive) {}).search {}
        (Options.withBlacklist { skipPagination := true } ([] ++ [letterEntry (patternLimit + 1)])) =
          .error (.backend .longPattern) := by
  have present : oneArchive.missing = [] := rfl
  have long : isLongPattern (String.ofList (List.replicate (patternLimit + 1) 'a')) = true := by
    have size := Text.length_le_utf8ByteSize (List.replicate (patternLimit + 1) 'a')
    rw [List.length_replicate] at size
    exact decide_eq_true size
  have gaveUp : ([letterEntry (patternLimit + 1)].filterMap TagFilter.ofBlacklistEntry?).any
      oneArchive.givesUpOn = true := by
    have some_artist : (oneArchive.store.tags.any fun tag => tag.scope = "artist") = true := by
      decide
    rcases List.any_eq_true.mp some_artist with ⟨tag, member, isArtist⟩
    rw [List.filterMap_cons_some (read_letterEntry (Nat.succ_ne_zero patternLimit)), List.any_cons,
      Database.givesUpOn, long, Bool.true_and]
    exact Bool.or_eq_true_iff.mpr (Or.inl (List.any_eq_true.mpr
      ⟨tag, member, Bool.or_eq_true_iff.mpr (Or.inr isArtist)⟩))
  refine ⟨present, Database.reachable_oneArchive.keyed, by decide +kernel, ?_⟩
  rw [Engine.search_eq_listing, Engine.listing_of_present present, givesUp_append, gaveUp,
    Bool.or_true]
  rfl

end Search
end Gallery
