import Gallery.Proofs.Listing.RestoredOrder
import Gallery.Proofs.Search.JointTrial
import Gallery.Proofs.Search.Limits
import Gallery.Proofs.Store.Purge

namespace Gallery

/-!
# Searches that do not show deleted archives

Deleted archives take part in a search until late.  Excluded and optional tags are
resolved to them like to all others, so the plan of a search lists their ids, and it
may leave out one condition or end early in a store without them.  But its first
condition is that an archive is not deleted.  A deleted row fails it before anything
about it can be refused, and no other row can tell the two plans apart.

What remains is what a database looks at before it tries a row.  A condition that is
there only for the sake of deleted archives makes the statement larger, and a search
that would have ended early runs it after all.  A list of many ids lets the database
ask the index first, even where the rest of them are too few for that.  And a list that
is left with one negative id takes a level more than a longer one.  So a search may be
refused with deleted archives and not without them, or the other way round; one that is
answered is answered alike.
-/

/-- What is left of a resolution when only some archives are kept. -/
def Resolution.restrict (resolution : Resolution) (kept : Int64 → Bool) : Resolution where
  excluded := resolution.excluded.filter kept
  optional := resolution.optional.map (List.filter kept)

/-- Whether a resolution has a list of one negative id. -/
def Resolution.HasOneNegative (resolution : Resolution) : Prop :=
  ∃ id < 0, resolution.excluded = [id] ∨ resolution.optional = some [id]

namespace Plan

open Store (Archive)

/-- Lists of conditions that do the same to an archive: trials of it end alike on either
side, and it satisfies all of one list if it satisfies all of the other. -/
structure Alike (store : Store) (archive : Archive) (first second : List Condition) : Prop where
  tried : ∀ around, tryAll store archive (first.filter (Condition.onSide around)) =
    tryAll store archive (second.filter (Condition.onSide around))
  held : (first.all fun condition => condition.holds store archive) =
    second.all fun condition => condition.holds store archive

namespace Alike

variable {store : Store} {archive : Archive} {first second first' second' : List Condition}

theorem same (conditions : List Condition) : Alike store archive conditions conditions :=
  ⟨fun _ => rfl, rfl⟩

theorem append (head : Alike store archive first second)
    (tail : Alike store archive first' second') :
    Alike store archive (first ++ first') (second ++ second') where
  tried around := by
    rw [List.filter_append, List.filter_append, tryAll_append, tryAll_append, head.tried around,
      tail.tried around]
  held := by rw [List.all_append, List.all_append, head.held, tail.held]

/-- Conditions on ids are never refused, so only their truth counts. -/
theorem of_tame (near : ∀ condition ∈ first ++ second, condition.looksAround = false)
    (tame : ∀ condition ∈ first ++ second, condition.Tame)
    (held : (first.all fun condition => condition.holds store archive) =
      second.all fun condition => condition.holds store archive) :
    Alike store archive first second where
  tried around := by
    rw [filter_onSide_of_near (List.forall_mem_append.mp near).1,
      filter_onSide_of_near (List.forall_mem_append.mp near).2]
    cases around with
    | false =>
        rw [if_neg Bool.false_ne_true, if_neg Bool.false_ne_true,
          tryAll_of_tame (List.forall_mem_append.mp tame).1,
          tryAll_of_tame (List.forall_mem_append.mp tame).2, held]
    | true => rfl
  held := held

theorem trialOrder (alike : Alike store archive first second) :
    tryAll store archive (trialOrder first) = tryAll store archive (trialOrder second) := by
  rw [trialOrder_eq, trialOrder_eq, tryAll_append, tryAll_append, alike.tried, alike.tried]

end Alike

end Plan

namespace Search

open Plan (Alike Condition)
open Store (Archive)

/-- The conditions on the ids to which tags are resolved. -/
def idConditions (resolution : Resolution) : List Condition :=
  Plan.unlessEmpty resolution.excluded .idNotIn ++ (resolution.optional.map .idIn).toList

/-- The conditions of a search before those that come of resolved tags, and after them. -/
def conditionsBefore (request : Request) (options : Options) : List Condition :=
  Plan.requestConditions request options ++
    ((Query.parse request.query).tags.filter (·.role = .required)).map
      fun tag => .hasTag tag.scope tag.pattern

def conditionsAfter (request : Request) : List Condition :=
  Plan.titleConditions (Query.parse request.query).title ++
    (Query.parse request.query).languages.map .language ++
    Plan.unlessEmpty (Query.parse request.query).sources .anySourceName ++
    Plan.unlessEmpty (Query.parse request.query).urls .anySourceUrl ++
    (Query.parse request.query).numbers.filterMap Plan.numberCondition?

theorem conditions_planOf_eq (store : Store) (request : Request) (options : Options) :
    (planOf store request options).conditions =
      conditionsBefore request options ++ idConditions (resolved store request options) ++
        conditionsAfter request := by
  rw [conditions_planOf]
  simp only [conditionsBefore, idConditions, conditionsAfter, List.append_assoc]

/-- Nothing but the conditions of a plan needs to be compared when the rest is the same. -/
theorem eq_withConditions {plan : Plan} {conditions : List Condition}
    (same : plan.conditions = conditions) : plan = { plan with conditions := conditions } := by
  subst same
  rfl

theorem mem_idConditions {resolution : Resolution} {condition : Condition}
    (member : condition ∈ idConditions resolution) :
    condition = .idNotIn resolution.excluded ∨
      ∃ ids, resolution.optional = some ids ∧ condition = .idIn ids := by
  simp only [idConditions, Plan.unlessEmpty, List.mem_append, List.mem_ite_nil_left,
    List.mem_singleton, Option.mem_toList, Option.map_eq_some_iff] at member
  rcases member with ⟨_, rfl⟩ | ⟨ids, given, rfl⟩
  · exact Or.inl rfl
  · exact Or.inr ⟨ids, given, rfl⟩

theorem near_idConditions {resolution : Resolution} {condition : Condition}
    (member : condition ∈ idConditions resolution) : condition.looksAround = false := by
  rcases mem_idConditions member with rfl | ⟨_, _, rfl⟩ <;> rfl

theorem tame_idConditions {resolution : Resolution} {condition : Condition}
    (member : condition ∈ idConditions resolution) : condition.Tame := by
  rcases mem_idConditions member with rfl | ⟨_, _, rfl⟩ <;> trivial

theorem all_idConditions (store : Store) (archive : Archive) (resolution : Resolution) :
    ((idConditions resolution).all fun condition => condition.holds store archive) =
      (!resolution.excluded.contains archive.id &&
        resolution.optional.all (·.contains archive.id)) := by
  rw [idConditions, List.all_append, Plan.all_unlessEmpty_idNotIn]
  cases resolution.optional with
  | none => rfl
  | some ids => exact congrArg (_ && ·) (Bool.and_true _)

theorem contains_filter_of_kept {ids : List Int64} {kept : Int64 → Bool} {id : Int64}
    (isKept : kept id = true) : (ids.filter kept).contains id = ids.contains id := by
  rw [Bool.eq_iff_iff, List.contains_iff_mem, List.contains_iff_mem, List.mem_filter,
    and_iff_left isKept]

/-- To an archive that is kept it makes no difference which others are. -/
theorem alike_idConditions_restrict {store : Store} {archive : Archive} {kept : Int64 → Bool}
    (isKept : kept archive.id = true) (resolution : Resolution) :
    Alike store archive (idConditions (resolution.restrict kept)) (idConditions resolution) := by
  apply Alike.of_tame
  · intro condition member
    rcases List.mem_append.mp member with inFirst | inSecond
    · exact near_idConditions inFirst
    · exact near_idConditions inSecond
  · intro condition member
    rcases List.mem_append.mp member with inFirst | inSecond
    · exact tame_idConditions inFirst
    · exact tame_idConditions inSecond
  · rw [all_idConditions, all_idConditions, Resolution.restrict, contains_filter_of_kept isKept]
    cases resolution.optional with
    | none => rfl
    | some ids =>
        rw [Option.map_some, Option.all_some, Option.all_some, contains_filter_of_kept isKept]

/-- What is asked of conditions is asked of those on resolved tags by their optional list. -/
theorem any_idConditions {property : Condition → Bool}
    (ofNotIn : ∀ ids, property (.idNotIn ids) = false) (resolution : Resolution) :
    (idConditions resolution).any property =
      resolution.optional.any fun ids => property (.idIn ids) := by
  have noneExcluded : (Plan.unlessEmpty resolution.excluded .idNotIn).any property = false := by
    rw [Plan.unlessEmpty]
    split
    · rfl
    · rw [List.any_cons, ofNotIn, List.any_nil, Bool.or_self]
  rw [idConditions, List.any_append, noneExcluded, Bool.false_or]
  cases resolution.optional with
  | none => rfl
  | some ids => rw [Option.map_some, Option.toList_some, List.any_cons, List.any_nil, Bool.or_false,
      Option.any_some]

theorem any_conditions_planOf {property : Condition → Bool}
    (ofNotIn : ∀ ids, property (.idNotIn ids) = false) (store : Store) (request : Request)
    (options : Options) :
    (planOf store request options).conditions.any property =
      ((conditionsBefore request options ++ conditionsAfter request).any property ||
        (resolved store request options).optional.any fun ids => property (.idIn ids)) := by
  rw [conditions_planOf_eq]
  simp only [List.any_append, any_idConditions ofNotIn]
  exact Bool.or_right_comm _ _ _

/-- Whether rows are wanted for an expression that cannot be read does not depend on what
tags are resolved to. -/
theorem wantsUnreadable_planOf (store : Store) (request : Request) (options : Options) :
    (planOf store request options).wantsUnreadable =
      (conditionsBefore request options ++ conditionsAfter request).any
        Condition.wantsUnreadable := by
  rw [Plan.wantsUnreadable, any_conditions_planOf fun _ => rfl]
  cases (resolved store request options).optional <;> exact Bool.or_false _

theorem heights_idConditions (resolution : Resolution) :
    (idConditions resolution).filterMap Condition.height? =
      (if resolution.excluded.isEmpty then [] else [Plan.idListHeight resolution.excluded + 1]) ++
        (resolution.optional.map Plan.idListHeight).toList := by
  rw [idConditions, List.filterMap_append, Plan.unlessEmpty]
  congr 1
  · cases resolution.excluded <;> rfl
  · cases resolution.optional <;> rfl

/-- Conditions on ids ask nothing of other tables. -/
theorem foldl_innerHeight_idConditions (resolution : Resolution) (height : Nat) :
    ((idConditions resolution).map Condition.innerHeight).foldl max height = height := by
  have zero : ∀ part ∈ (idConditions resolution).map Condition.innerHeight, part = 0 := by
    intro part member
    rcases List.mem_map.mp member with ⟨condition, inConditions, rfl⟩
    rcases mem_idConditions inConditions with rfl | ⟨_, _, rfl⟩ <;> rfl
  rw [List.eq_replicate_iff.mpr ⟨rfl, zero⟩]
  generalize ((idConditions resolution).map Condition.innerHeight).length = count
  induction count with
  | zero => rfl
  | succ count inductionHypothesis =>
      rw [List.replicate_succ, List.foldl_cons, Nat.max_zero, inductionHypothesis]

/-- With fewer archives the conditions on ids are no more and no higher, unless the optional
tags lead nowhere or a list has one negative id. -/
theorem heights_restrict_sublist {resolution : Resolution} {kept : Int64 → Bool}
    (carried : (resolution.restrict kept).optional ≠ some [])
    (unsigned : ¬ (resolution.restrict kept).HasOneNegative) :
    ((idConditions (resolution.restrict kept)).filterMap Condition.height?).Sublist
      ((idConditions resolution).filterMap Condition.height?) := by
  have optional : (resolution.restrict kept).optional.map Plan.idListHeight =
      resolution.optional.map Plan.idListHeight := by
    cases given : resolution.optional with
    | none =>
        rw [Resolution.restrict, given]
        rfl
    | some ids =>
        have left : (resolution.restrict kept).optional = some (ids.filter kept) := by
          rw [Resolution.restrict, given]
          rfl
        have remains : ids.filter kept ≠ [] := fun empty => carried (left.trans (congrArg _ empty))
        have same := Plan.idListHeight_filter remains fun id negative single =>
          unsigned ⟨id, negative, Or.inr (left.trans (congrArg _ single))⟩
        rw [left, Option.map_some, Option.map_some, same]
  rw [heights_idConditions, heights_idConditions, optional]
  refine List.Sublist.append ?_ (List.Sublist.refl _)
  rw [Resolution.restrict]
  by_cases nothing : resolution.excluded.filter kept = []
  · rw [nothing]
    exact List.nil_sublist _
  · have same := Plan.idListHeight_filter nothing fun id negative single =>
      unsigned ⟨id, negative, Or.inl single⟩
    have nonempty : resolution.excluded ≠ [] := fun empty => nothing (by rw [empty]; rfl)
    rw [List.isEmpty_eq_false_iff.mpr nothing, List.isEmpty_eq_false_iff.mpr nonempty, same]

end Search

/-! ## What tags are resolved to without deleted archives -/

/-- Deleted archives are left out of those that carry a tag. -/
theorem Store.carriersOf_purge (store : Store) (filters : List Query.TagFilter) :
    store.purge.carriersOf filters =
      (store.carriersOf filters).filter fun id => !store.isDeleted id := by
  rw [carriersOf, carriersOf, ← eraseDups_filter, List.filter_map, List.filter_filter, purge,
    List.filter_filter]
  refine congrArg (fun links : List Link => (links.map Link.archive).eraseDups) ?_
  exact List.filter_congr fun link _ => Bool.and_comm _ _

namespace Search

open Plan (Alike Condition)
open Store (Archive)

section Resolved

variable {store : Store} {request : Request} {options : Options}

theorem resolved_purge (store : Store) (request : Request) (options : Options) :
    resolved store.purge request options =
      (resolved store request options).restrict fun id => !store.isDeleted id := by
  simp only [resolved, Store.resolutionOf, Resolution.restrict, Store.carriersOf_purge]
  split <;> rfl

/-- What is resolved to some archive without the deleted ones is so with them. -/
theorem carried_of_purge (carried : (resolved store.purge request options).optional ≠ some []) :
    (resolved store request options).optional ≠ some [] := by
  intro empty
  rw [resolved_purge, Resolution.restrict, empty] at carried
  exact carried rfl

/-! ## The plans of both stores -/

theorem alike_planOf_purge {archive : Archive} (undeleted : store.isDeleted archive.id = false) :
    Alike store archive (planOf store.purge request options).conditions
      (planOf store request options).conditions := by
  rw [conditions_planOf_eq, conditions_planOf_eq]
  rw [resolved_purge]
  exact ((Alike.same _).append (alike_idConditions_restrict (by rw [undeleted]; rfl) _)).append
    (Alike.same _)

theorem tryAll_planOf_purge {archive : Archive} (undeleted : store.isDeleted archive.id = false) :
    Plan.tryAll store.purge archive
        (Plan.trialOrder (planOf store.purge request options).conditions) =
      Plan.tryAll store archive (Plan.trialOrder (planOf store request options).conditions) := by
  rw [Plan.tryAll_purge undeleted, (alike_planOf_purge undeleted).trialOrder]

theorem holds_planOf_purge {archive : Archive} (undeleted : store.isDeleted archive.id = false) :
    (planOf store.purge request options).holds store.purge archive =
      (planOf store request options).holds store archive := by
  have conditions : ((planOf store.purge request options).conditions.all fun condition =>
      condition.holds store.purge archive) =
      (planOf store request options).conditions.all fun condition =>
        condition.holds store archive := by
    simp only [Condition.holds_purge undeleted]
    exact (alike_planOf_purge undeleted).held
  have counts : ((planOf store.purge request options).having.all fun having =>
      having.holds store.purge (planOf store.purge request options).joins archive) =
      (planOf store request options).having.all fun having =>
        having.holds store (planOf store request options).joins archive := by
    simp only [Plan.Having.holds_purge undeleted]
    rfl
  rw [Plan.holds, Plan.holds, conditions, counts]

/-- Where deleted archives are not shown, being shown is the first condition. -/
theorem conditions_of_hidden (store : Store) (request : Request)
    (hidden : options.showHidden = false) :
    ∃ others, (planOf store request options).conditions = .visible :: others := by
  refine ⟨(planOf store request options).conditions.tail, ?_⟩
  rw [conditions_planOf, Plan.requestConditions, hidden]
  rfl

/-- A deleted archive is out before anything about it can be refused. -/
theorem tryAll_of_deleted {archive : Archive} (hidden : options.showHidden = false)
    (deleted : archive.deletedAt.isSome = true) :
    Plan.tryAll store archive (Plan.trialOrder (planOf store request options).conditions) =
      .ok false := by
  have fails : Condition.visible.attempt store archive = .ok false := by
    have tame : Condition.visible.Tame := trivial
    rw [Condition.attempt_of_tame tame, Condition.holds, Option.isNone_eq_false_iff.mpr deleted]
  rcases conditions_of_hidden store request hidden with ⟨others, isList⟩
  have first : Plan.trialOrder (.visible :: others) = .visible :: Plan.trialOrder others := rfl
  rw [isList, first, Plan.tryAll, fails]

theorem not_holds_of_deleted {archive : Archive} (hidden : options.showHidden = false)
    (deleted : archive.deletedAt.isSome = true) :
    (planOf store request options).holds store archive = false := by
  rcases conditions_of_hidden store request hidden with ⟨others, isList⟩
  rw [Plan.holds, isList, List.all_cons, Condition.holds, Option.isNone_eq_false_iff.mpr deleted,
    Bool.false_and, Bool.false_and]

/-- Where the index is asked first only with the deleted archives, optional tags are resolved
to few others. -/
theorem few_of_startsAtIndex (starts : (planOf store request options).startsAtIndex = true)
    (differs : (planOf store.purge request options).startsAtIndex ≠ true) :
    ∃ fewer, (resolved store.purge request options).optional = some fewer ∧
      fewer.length ≤ expectedMatches := by
  rw [Plan.startsAtIndex, any_conditions_planOf fun _ => rfl, Bool.not_eq_true',
    Bool.or_eq_false_iff] at starts
  rw [Plan.startsAtIndex, any_conditions_planOf fun _ => rfl, starts.1, Bool.false_or,
    ne_eq, Bool.not_eq_true', Bool.not_eq_false, Option.any_eq_true] at differs
  rcases differs with ⟨fewer, given, few⟩
  exact ⟨fewer, given, of_decide_eq_true few⟩

/-- Where the index is asked first without the deleted archives, it is so with them: their ids
only make lists longer. -/
theorem startsAtIndex_of_purge
    (starts : (planOf store.purge request options).startsAtIndex = true) :
    (planOf store request options).startsAtIndex = true := by
  rw [Plan.startsAtIndex, any_conditions_planOf fun _ => rfl, Bool.not_eq_true',
    Bool.or_eq_false_iff] at starts ⊢
  refine ⟨starts.1, ?_⟩
  have many := starts.2
  rw [resolved_purge, Resolution.restrict] at many
  cases given : (resolved store request options).optional with
  | none => rfl
  | some ids =>
      rw [given] at many
      have longer : (ids.filter fun id => !store.isDeleted id).length ≤ ids.length :=
        List.length_filter_le _ _
      have manyKept := of_decide_eq_false many
      exact decide_eq_false (by omega)

/-- The statement for the smaller store is no larger, unless there is none or it lists one
negative id. -/
theorem fits_planOf_purge (carried : (resolved store.purge request options).optional ≠ some [])
    (unsigned : ¬ (resolved store.purge request options).HasOneNegative)
    (fits : (planOf store request options).Fits) : (planOf store.purge request options).Fits := by
  have nesting : (planOf store.purge request options).nesting ≤
      (planOf store request options).nesting := by
    apply Plan.nesting_le_of_sublist
    · rfl
    · rfl
    · simp only [conditions_planOf_eq, List.filterMap_append]
      refine ((List.Sublist.refl _).append ?_).append (List.Sublist.refl _)
      rw [resolved_purge] at carried unsigned ⊢
      exact heights_restrict_sublist carried unsigned
    · simp only [conditions_planOf_eq, List.map_append, List.foldl_append,
        foldl_innerHeight_idConditions, Nat.le_refl]
  exact ⟨fits.1, nesting.trans fits.2⟩

end Resolved

/-! ## Rows of both stores -/

/-- What the rows of a table answer when some of them are gone that have nothing to say. -/
theorem findSome?_filter {α β : Type} {rows : List α} {kept : α → Bool}
    {answer other : α → Option β}
    (same : ∀ row ∈ rows, kept row = true → answer row = other row)
    (silent : ∀ row ∈ rows, kept row = false → other row = none) :
    (rows.filter kept).findSome? answer = rows.findSome? other := by
  induction rows with
  | nil => rfl
  | cons row rest inductionHypothesis =>
      have later := inductionHypothesis (fun row member => same row (List.mem_cons_of_mem _ member))
        fun row member => silent row (List.mem_cons_of_mem _ member)
      cases stays : kept row with
      | false =>
          rw [List.filter_cons_of_neg (Bool.eq_false_iff.mp stays), List.findSome?_cons,
            silent row List.mem_cons_self stays, later]
      | true =>
          rw [List.filter_cons_of_pos stays, List.findSome?_cons, List.findSome?_cons,
            same row List.mem_cons_self stays, later]

section Rows

variable {store : Store} {request : Request} {options : Options}

theorem undeleted_of_kept (keyed : store.Keyed) {archive : Archive}
    (member : archive ∈ store.archives) (kept : archive.deletedAt.isNone = true) :
    store.isDeleted archive.id = false := by
  rw [Store.isDeleted_of_mem keyed member]
  exact Option.isSome_eq_false_iff.mpr kept

theorem isSome_of_not_isNone {archive : Archive} (deleted : archive.deletedAt.isNone = false) :
    archive.deletedAt.isSome = true :=
  Option.isNone_eq_false_iff.mp deleted

/-- Both plans select the same archives. -/
theorem filter_holds_purge (keyed : store.Keyed) (hidden : options.showHidden = false) :
    store.purge.archives.filter ((planOf store.purge request options).holds store.purge) =
      store.archives.filter ((planOf store request options).holds store) := by
  rw [Store.purge, List.filter_filter]
  apply List.filter_congr
  intro archive member
  cases kept : archive.deletedAt.isNone with
  | true =>
      rw [Bool.and_true]
      exact holds_planOf_purge (undeleted_of_kept keyed member kept)
  | false =>
      rw [Bool.and_false, not_holds_of_deleted hidden (isSome_of_not_isNone kept)]

theorem arrangedIds_purge (keyed : store.Keyed) (hidden : options.showHidden = false) :
    arrangedIds request (planOf store.purge request options) store.purge =
      arrangedIds request (planOf store request options) store := by
  rw [arrangedIds, arrangedIds, Plan.rows, Plan.rows, Plan.select, Plan.select,
    filter_holds_purge keyed hidden]
  rfl

/-- Both plans are refused by the same rows. -/
theorem findSome?_rowRefusal_purge (keyed : store.Keyed) (hidden : options.showHidden = false) :
    store.purge.archives.findSome? ((planOf store.purge request options).rowRefusal? store.purge) =
      store.archives.findSome? ((planOf store request options).rowRefusal? store) := by
  apply findSome?_filter
  · intro archive member kept
    rw [Plan.rowRefusal?, Plan.rowRefusal?,
      tryAll_planOf_purge (undeleted_of_kept keyed member kept)]
  · intro archive _ dropped
    rw [Plan.rowRefusal?, tryAll_of_deleted hidden (isSome_of_not_isNone dropped)]

/-- Of the conditions before those on resolved tags, none that is tried among the first is ever
refused. -/
theorem tame_conditionsBefore {condition : Condition}
    (member : condition ∈ (conditionsBefore request options).filter (Condition.onSide false)) :
    condition.Tame := by
  rcases List.mem_filter.mp member with ⟨inBefore, near⟩
  rcases List.mem_append.mp inBefore with asked | tagged
  · simp only [Plan.requestConditions, List.mem_append, List.mem_ite_nil_left,
      List.mem_ite_nil_right, List.mem_singleton, Option.mem_toList,
      Option.map_eq_some_iff] at asked
    rcases asked with ((⟨_, rfl⟩ | ⟨_, _, rfl⟩) | ⟨_, _, rfl⟩) | ⟨_, rfl⟩ <;> trivial
  · rcases List.mem_map.mp tagged with ⟨_, _, rfl⟩
    cases near

/-- An archive without any of the optional tags is out before anything about it can be
refused: the list of those that carry one is tried before other tables are. -/
theorem tryAll_of_uncarried {archive : Archive} {ids : List Int64}
    (given : (resolved store request options).optional = some ids)
    (uncarried : ids.contains archive.id = false) :
    Plan.tryAll store archive (Plan.trialOrder (planOf store request options).conditions) =
      .ok false := by
  have tame : ∀ condition ∈ (conditionsBefore request options).filter (Condition.onSide false) ++
      idConditions (resolved store request options), condition.Tame :=
    List.forall_mem_append.mpr ⟨fun _ => tame_conditionsBefore, fun _ => tame_idConditions⟩
  have begun : Plan.tryAll store archive
      ((conditionsBefore request options).filter (Condition.onSide false) ++
        idConditions (resolved store request options)) = .ok false := by
    rw [Plan.tryAll_of_tame tame, List.all_append, all_idConditions, given, Option.all_some,
      uncarried, Bool.and_false, Bool.and_false]
  rw [conditions_planOf_eq, Plan.trialOrder_eq, Plan.tryAll_append, List.filter_append,
    List.filter_append, Plan.filter_onSide_of_near (fun _ => near_idConditions),
    if_neg Bool.false_ne_true, Plan.tryAll_append, begun]

/-- Where only deleted archives carry an optional tag, every row is out in time. -/
theorem tryAll_of_deleted_carriers (keyed : store.Keyed) (hidden : options.showHidden = false)
    (uncarried : (resolved store.purge request options).optional = some []) {archive : Archive}
    (member : archive ∈ store.archives) :
    Plan.tryAll store archive (Plan.trialOrder (planOf store request options).conditions) =
      .ok false := by
  cases kept : archive.deletedAt.isNone with
  | false => exact tryAll_of_deleted hidden (isSome_of_not_isNone kept)
  | true =>
      have undeleted := undeleted_of_kept keyed member kept
      rw [resolved_purge, Resolution.restrict] at uncarried
      rcases Option.map_eq_some_iff.mp uncarried with ⟨ids, given, noneKept⟩
      refine tryAll_of_uncarried given ?_
      have absent := List.filter_eq_nil_iff.mp noneKept archive.id
      rw [undeleted] at absent
      exact Bool.eq_false_iff.mpr fun listed => absent (List.contains_iff_mem.mp listed) rfl

end Rows

/-! ## Refusals -/

section Refusals

variable {database : Database} {request : Request} {options : Options} {site : Config.Site}

/-- A search that is refused for the size of its statement. -/
def TooLarge (database : Database) (site : Config.Site) (request : Request) (options : Options) :
    Prop :=
  ¬ (planOf database.store request options).Fits ∧
    ((Engine.mk (.sqlite database) site).search request options =
        .error (.backend .tooManyTables) ∨
      (Engine.mk (.sqlite database) site).search request options = .error (.backend .tooDeep))

/-- A search that begins at the index and is refused there, since the expression for its title
words cannot be read. -/
def StartsUnread (database : Database) (site : Config.Site) (request : Request)
    (options : Options) : Prop :=
  (planOf database.store request options).startsAtIndex = true ∧
    (planOf database.store request options).wantsUnreadable = true ∧
    (Engine.mk (.sqlite database) site).search request options =
      .error (.backend .malformedExpression)

/-- A search that is refused and may not be so without the deleted archives: its statement is
too large, or it begins at the index although its optional tags lead to few other archives. -/
def RefusedWithDeleted (database : Database) (site : Config.Site) (request : Request)
    (options : Options) : Prop :=
  TooLarge database site request options ∨
    StartsUnread database site request options ∧
      ∃ fewer, (resolved database.store.purge request options).optional = some fewer ∧
        fewer.length ≤ expectedMatches

/-- A search that is refused only without the deleted archives: its statement becomes too large
since one negative id is left of a list. -/
def RefusedWithoutDeleted (database : Database) (site : Config.Site) (request : Request)
    (options : Options) : Prop :=
  (planOf database.store request options).Fits ∧ TooLarge database.purge site request options ∧
    (resolved database.store.purge request options).HasOneNegative

theorem not_refusedWithDeleted (fits : (planOf database.store request options).Fits)
    (readable : (planOf database.store request options).wantsUnreadable = false) :
    ¬ RefusedWithDeleted database site request options := by
  rintro (large | ⟨⟨_, unreadable, _⟩, _⟩)
  · exact large.1 fits
  · exact Bool.false_ne_true (readable.symm.trans unreadable)

theorem not_refusedWithoutDeleted (fits : (planOf database.purge.store request options).Fits) :
    ¬ RefusedWithoutDeleted database site request options :=
  fun refused => refused.2.1.1 fits

/-- Whether a search ends before its plan is run. -/
def EndsEarly (database : Database) (request : Request) (options : Options) : Prop :=
  options.allowIds = some [] ∨ givesUp database request options = true ∨
    (resolved database.store request options).optional = some []

/-- A search that does not end early fails where its plan is refused. -/
theorem Engine.search_of_refusal (present : database.missing = [])
    (runs : ¬ EndsEarly database request options) {refusal : Refusal}
    (refused : (planOf database.store request options).refusal? database = some refusal)
    (site : Config.Site) :
    (Engine.mk (.sqlite database) site).search request options = .error (.backend refusal) := by
  rcases not_or.mp runs with ⟨allowed, others⟩
  rcases not_or.mp others with ⟨accepted, carried⟩
  rw [Engine.search_eq_listing, Engine.listing_eq_arrangedIds present, if_neg allowed,
    if_neg accepted, if_neg carried, refused]
  rfl

theorem tooLarge_of_not_fits (present : database.missing = [])
    (runs : ¬ EndsEarly database request options)
    (large : ¬ (planOf database.store request options).Fits) (site : Config.Site) :
    TooLarge database site request options := by
  refine ⟨large, ?_⟩
  rcases Plan.refusal?_of_not_fits present large with refused | refused
  · exact Or.inl (Engine.search_of_refusal present runs refused site)
  · exact Or.inr (Engine.search_of_refusal present runs refused site)

/-- Where the index is asked first, no list of ids is empty. -/
theorem selectsNothing_of_startsAtIndex {plan : Plan} (starts : plan.startsAtIndex = true) :
    plan.selectsNothing = false := by
  rw [Plan.startsAtIndex, Bool.not_eq_true', List.any_eq_false] at starts
  rw [Plan.selectsNothing, Bool.eq_false_iff]
  exact fun listed => starts _ (List.contains_iff_mem.mp listed) rfl

theorem startsUnread_of_startsAtIndex (present : database.missing = [])
    (runs : ¬ EndsEarly database request options)
    (fits : (planOf database.store request options).Fits)
    (starts : (planOf database.store request options).startsAtIndex = true)
    (unreadable : (planOf database.store request options).wantsUnreadable = true)
    (site : Config.Site) : StartsUnread database site request options := by
  refine ⟨starts, unreadable, Engine.search_of_refusal present runs ?_ site⟩
  rw [Plan.refusal?, Plan.refusal?_of_present present]
  simp only [if_neg (Nat.not_lt.mpr fits.1), if_neg (Nat.not_lt.mpr fits.2),
    selectsNothing_of_startsAtIndex starts, starts, unreadable, Bool.and_self, if_true,
    Bool.false_eq_true, if_false]

/-- Plans that fit are refused in both stores alike if they begin at the same place or can be
read. -/
theorem refusal?_planOf_purge (present : database.missing = []) (keyed : database.store.Keyed)
    (hidden : options.showHidden = false)
    (carried : (resolved database.store.purge request options).optional ≠ some [])
    (fits : (planOf database.store request options).Fits)
    (fitsToo : (planOf database.store.purge request options).Fits)
    (alike : (planOf database.store.purge request options).startsAtIndex =
        (planOf database.store request options).startsAtIndex ∨
      (planOf database.store request options).wantsUnreadable = false) :
    (planOf database.store.purge request options).refusal? database.purge =
      (planOf database.store request options).refusal? database := by
  have selects : (planOf database.store.purge request options).selectsNothing =
      (planOf database.store request options).selectsNothing := by
    rw [Bool.eq_iff_iff, selectsNothing_planOf_iff, selectsNothing_planOf_iff]
    simp only [carried, carried_of_purge carried]
  have asks : ((planOf database.store.purge request options).startsAtIndex &&
        (planOf database.store.purge request options).wantsUnreadable) =
      ((planOf database.store request options).startsAtIndex &&
        (planOf database.store request options).wantsUnreadable) := by
    rw [wantsUnreadable_planOf database.store.purge, ← wantsUnreadable_planOf database.store]
    rcases alike with same | readable
    · rw [same]
    · rw [readable, Bool.and_false, Bool.and_false]
  have presentToo : database.purge.missing = [] := present
  rw [Plan.refusal?, Plan.refusal?, Plan.refusal?_of_present present,
    Plan.refusal?_of_present presentToo]
  simp only [if_neg (Nat.not_lt.mpr fits.1), if_neg (Nat.not_lt.mpr fits.2),
    if_neg (Nat.not_lt.mpr fitsToo.1), if_neg (Nat.not_lt.mpr fitsToo.2), selects,
    asks]
  exact congrArg _ (congrArg _ (findSome?_rowRefusal_purge keyed hidden))

/-- Where only deleted archives carry an optional tag, a plan that fits has no rows, and it is
not refused if it begins elsewhere than at the index or can be read. -/
theorem evaluate_of_deleted_carriers (present : database.missing = [])
    (keyed : database.store.Keyed) (hidden : options.showHidden = false)
    (uncarried : (resolved database.store.purge request options).optional = some [])
    (fits : (planOf database.store request options).Fits)
    (unasked : ((planOf database.store request options).startsAtIndex &&
      (planOf database.store request options).wantsUnreadable) = false) :
    (planOf database.store request options).refusal? database = none ∧
      arrangedIds request (planOf database.store request options) database.store = [] := by
  have tried := fun archive (member : archive ∈ database.store.archives) =>
    tryAll_of_deleted_carriers keyed hidden uncarried member
  constructor
  · have unrefused : database.store.archives.findSome?
        ((planOf database.store request options).rowRefusal? database.store) = none := by
      apply List.findSome?_eq_none_iff.mpr
      intro archive member
      exact (Plan.rowRefusal?_eq_none_iff _ _ archive).mpr ⟨false, tried archive member⟩
    rw [Plan.refusal?, Plan.refusal?_of_present present]
    simp only [if_neg (Nat.not_lt.mpr fits.1), if_neg (Nat.not_lt.mpr fits.2), unasked,
      Bool.false_eq_true, if_false, unrefused, ite_self]
  · apply List.eq_nil_iff_forall_not_mem.mpr
    intro id member
    rcases (mem_arrangedIds_iff _ _ _ id).mp member with ⟨archive, inArchives, _, holds⟩
    have fails := Plan.eq_all_of_tryAll (fun _ _ => Condition.eq_holds_of_attempt)
      (tried archive inArchives)
    rw [Plan.all_trialOrder] at fails
    rw [Plan.holds, ← fails, Bool.false_and] at holds
    cases holds

end Refusals

/-! ## Searches of both stores -/

section Searches

variable {database : Database} {request : Request} {options : Options}

/-- A search that ends early with the deleted archives does so without them, and alike. -/
theorem Engine.listing_purge_of_endsEarly (present : database.missing = [])
    (ends : EndsEarly database request options) (site : Config.Site) :
    (Engine.mk (.sqlite database.purge) site).listing request options =
      (Engine.mk (.sqlite database) site).listing request options := by
  have presentToo : database.purge.missing = [] := present
  have gaveUp : givesUp database.purge request options = givesUp database request options := rfl
  have same : database.purge.store = database.store.purge := rfl
  rw [Engine.listing_eq_arrangedIds presentToo, Engine.listing_eq_arrangedIds present, gaveUp, same]
  rcases ends with nothing | refused | empty
  · rw [if_pos nothing, if_pos nothing]
  · rw [if_pos refused, if_pos refused]
  · have emptyToo : (resolved database.store.purge request options).optional = some [] :=
      Decidable.not_not.mp fun carried => carried_of_purge carried empty
    rw [if_pos empty, if_pos emptyToo]

/-- Deleted archives change nothing about a search but whether it is refused for the size of
its statement or for words that cannot be read. -/
theorem Engine.search_purge (present : database.missing = []) (keyed : database.store.Keyed)
    (request : Request) (hidden : options.showHidden = false) (site : Config.Site) :
    (Engine.mk (.sqlite database.purge) site).search request options =
        (Engine.mk (.sqlite database) site).search request options ∨
      RefusedWithDeleted database site request options ∨
      RefusedWithoutDeleted database site request options := by
  have presentToo : database.purge.missing = [] := present
  by_cases ends : EndsEarly database request options
  · left
    rw [Engine.search_eq_listing, Engine.search_eq_listing,
      Engine.listing_purge_of_endsEarly present ends]
  by_cases fits : (planOf database.store request options).Fits
  swap
  · exact Or.inr (Or.inl (Or.inl (tooLarge_of_not_fits present ends fits site)))
  have runs := not_or.mp (not_or.mp ends).2
  have gaveUp : givesUp database.purge request options = givesUp database request options := rfl
  have same : database.purge.store = database.store.purge := rfl
  by_cases uncarried : (resolved database.store.purge request options).optional = some []
  · -- Without the deleted archives the search ends, and with them its plan is run for nothing.
    cases asks : (planOf database.store request options).startsAtIndex &&
        (planOf database.store request options).wantsUnreadable with
    | true =>
        rcases Bool.and_eq_true_iff.mp asks with ⟨starts, unreadable⟩
        exact Or.inr (Or.inl (Or.inr
          ⟨startsUnread_of_startsAtIndex present ends fits starts unreadable site,
            [], uncarried, Nat.zero_le _⟩))
    | false =>
        left
        rcases evaluate_of_deleted_carriers present keyed hidden uncarried fits asks with
          ⟨answered, empty⟩
        rw [Engine.search_eq_listing, Engine.search_eq_listing,
          Engine.listing_eq_arrangedIds presentToo, Engine.listing_eq_arrangedIds present, gaveUp,
          same, if_pos uncarried, if_neg runs.2, answered, empty]
  have endsToo : ¬ EndsEarly database.purge request options := by
    rintro (nothing | refused | empty)
    · exact (not_or.mp ends).1 nothing
    · exact runs.1 refused
    · exact uncarried empty
  by_cases fitsToo : (planOf database.store.purge request options).Fits
  swap
  · refine Or.inr (Or.inr ⟨fits, tooLarge_of_not_fits presentToo endsToo fitsToo site, ?_⟩)
    exact not_not.mp fun unsigned => fitsToo (fits_planOf_purge uncarried unsigned fits)
  by_cases alike : (planOf database.store.purge request options).startsAtIndex =
        (planOf database.store request options).startsAtIndex ∨
      (planOf database.store request options).wantsUnreadable = false
  · left
    rw [Engine.search_eq_listing, Engine.search_eq_listing,
      Engine.listing_eq_arrangedIds presentToo, Engine.listing_eq_arrangedIds present, gaveUp, same,
      if_neg uncarried, if_neg runs.2, arrangedIds_purge keyed hidden,
      refusal?_planOf_purge present keyed hidden uncarried fits fitsToo alike]
  · -- Only the search with the deleted archives begins at the index.
    rcases not_or.mp alike with ⟨differ, unreadable⟩
    have elsewhere : (planOf database.store.purge request options).startsAtIndex ≠ true :=
      fun starts => differ (starts.trans (startsAtIndex_of_purge starts).symm)
    rw [Bool.eq_false_iff.mpr elsewhere] at differ
    have starts := (Bool.not_eq_false _).mp (Ne.symm differ)
    exact Or.inr (Or.inl (Or.inr ⟨startsUnread_of_startsAtIndex present ends fits starts
      ((Bool.not_eq_false _).mp unreadable) site, few_of_startsAtIndex starts elsewhere⟩))

end Searches

end Search
end Gallery
