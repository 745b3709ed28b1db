import Gallery.Proofs.Query.TitleCharacters
import Gallery.Proofs.Search.Conjunction

namespace Gallery

/-!
# Trying rows against two queries

Rows are tried against conditions on their own columns first and against those
that look into other tables afterwards.  The plan of two queries keeps this order,
so on either side its conditions are those of the two plans, group by group: they
are the same, or one group follows the other, or one of them is empty.  Only
excluded tags and title words are merged into one condition, and these are never
refused.  A row is thus refused by the plan of both only if one of the two plans
refuses it.
-/

namespace Plan

open Store (Archive)

/-! ## Sides -/

/-- Whether a condition is tried among the first or among the last. -/
def Condition.onSide (around : Bool) (condition : Condition) : Bool :=
  condition.looksAround == around

theorem trialOrder_eq (conditions : List Condition) :
    trialOrder conditions =
      conditions.filter (Condition.onSide false) ++ conditions.filter (Condition.onSide true) := by
  have near : (fun condition : Condition => !condition.looksAround) = Condition.onSide false := by
    funext condition
    rw [Condition.onSide]
    cases condition.looksAround <;> rfl
  have far : (fun condition : Condition => condition.looksAround) = Condition.onSide true := by
    funext condition
    rw [Condition.onSide]
    cases condition.looksAround <;> rfl
  rw [trialOrder, near, far]

/-- Conditions on the columns of a row are tried among the first. -/
theorem filter_onSide_of_near {conditions : List Condition}
    (near : ∀ condition ∈ conditions, condition.looksAround = false) (around : Bool) :
    conditions.filter (Condition.onSide around) = if around then [] else conditions := by
  cases around with
  | false =>
      refine List.filter_eq_self.mpr fun condition member => ?_
      rw [Condition.onSide, near condition member]
      rfl
  | true =>
      refine List.filter_eq_nil_iff.mpr fun condition member => ?_
      rw [Condition.onSide, near condition member]
      exact Bool.false_ne_true

section Sides

variable {store : Store} {archive : Archive}

variable (store archive) in
/-- Lists whose conditions join on either side. -/
def SidesJoin (first second both : List Condition) : Prop :=
  ∀ around, Joins store archive (first.filter (Condition.onSide around))
    (second.filter (Condition.onSide around)) (both.filter (Condition.onSide around))

namespace SidesJoin

theorem trialOrder {first second both : List Condition}
    (sides : SidesJoin store archive first second both) :
    Joins store archive (trialOrder first) (trialOrder second) (trialOrder both) := by
  rw [trialOrder_eq, trialOrder_eq, trialOrder_eq]
  exact (sides false).append (sides true)

theorem append {first second both first' second' both' : List Condition}
    (head : SidesJoin store archive first second both)
    (tail : SidesJoin store archive first' second' both') :
    SidesJoin store archive (first ++ first') (second ++ second') (both ++ both') := by
  intro around
  rw [List.filter_append, List.filter_append, List.filter_append]
  exact (head around).append (tail around)

theorem same (conditions : List Condition) :
    SidesJoin store archive conditions conditions conditions :=
  fun _ => Joins.same _

theorem left (conditions : List Condition) : SidesJoin store archive conditions [] conditions :=
  fun _ => Joins.left _

theorem right (conditions : List Condition) : SidesJoin store archive [] conditions conditions :=
  fun _ => Joins.right _

theorem concat (first second : List Condition) :
    SidesJoin store archive first second (first ++ second) := by
  intro around
  rw [List.filter_append]
  exact Joins.concat _ _

/-- Conditions on the columns of a row join as they are. -/
theorem of_near {first second both : List Condition}
    (nearFirst : ∀ condition ∈ first, condition.looksAround = false)
    (nearSecond : ∀ condition ∈ second, condition.looksAround = false)
    (nearBoth : ∀ condition ∈ both, condition.looksAround = false)
    (joined : Joins store archive first second both) : SidesJoin store archive first second both := by
  intro around
  rw [filter_onSide_of_near nearFirst, filter_onSide_of_near nearSecond,
    filter_onSide_of_near nearBoth]
  cases around with
  | false => exact joined
  | true => exact Joins.same []

end SidesJoin

/-! ## Merged conditions -/

theorem all_unlessEmpty_idNotIn (ids : List Int64) :
    ((unlessEmpty ids .idNotIn).all fun condition => condition.holds store archive) =
      !ids.contains archive.id := by
  cases ids with
  | nil => rfl
  | cons first others =>
      simp only [unlessEmpty, List.isEmpty_cons, Bool.false_eq_true, if_false, List.all_cons,
        List.all_nil, Bool.and_true]
      rfl

private theorem eq_of_mem_unlessEmpty {ids : List Int64} {condition : Condition}
    (member : condition ∈ unlessEmpty ids .idNotIn) : condition = .idNotIn ids := by
  rw [unlessEmpty] at member
  split at member
  · cases member
  · exact List.mem_singleton.mp member

theorem sidesJoin_idNotIn {first second both : List Int64}
    (merged : both.contains archive.id = (first.contains archive.id || second.contains archive.id)) :
    SidesJoin store archive (unlessEmpty first .idNotIn) (unlessEmpty second .idNotIn)
      (unlessEmpty both .idNotIn) := by
  have near : ∀ {ids : List Int64}, ∀ condition ∈ unlessEmpty ids .idNotIn,
      condition.looksAround = false := fun _ member => by
    rw [eq_of_mem_unlessEmpty member]; rfl
  have tame : ∀ {ids : List Int64}, ∀ condition ∈ unlessEmpty ids .idNotIn, condition.Tame :=
    fun _ member => by rw [eq_of_mem_unlessEmpty member]; trivial
  refine SidesJoin.of_near near near near (Joins.of_tame tame tame tame ?_)
  rw [all_unlessEmpty_idNotIn, all_unlessEmpty_idNotIn, all_unlessEmpty_idNotIn, merged,
    Bool.not_or]

theorem all_titleConditions (keyed : store.Keyed) {words : Query.TitleWords}
    (free : FullText.Match.KeptNullFree words) :
    ((titleConditions words).all fun condition => condition.holds store archive) =
      store.meetsTitle archive.id words := by
  rw [titleConditions]
  split
  · rename_i wordless
    exact (store.meetsTitle_of_isEmpty archive.id wordless).symm
  · rw [List.all_cons, List.all_nil, Bool.and_true]
    exact store.answersWords_eq_meetsTitle keyed archive.id free

theorem eq_of_mem_titleConditions {words : Query.TitleWords} {condition : Condition}
    (member : condition ∈ titleConditions words) : condition = .fullText words := by
  rw [titleConditions] at member
  split at member
  · cases member
  · exact List.mem_singleton.mp member

theorem near_titleConditions {words : Query.TitleWords} {condition : Condition}
    (member : condition ∈ titleConditions words) : condition.looksAround = false := by
  rw [eq_of_mem_titleConditions member]
  rfl

theorem sidesJoin_title (keyed : store.Keyed) {first second : Query.TitleWords}
    (freeFirst : FullText.Match.KeptNullFree first)
    (freeSecond : FullText.Match.KeptNullFree second)
    (freeBoth : FullText.Match.KeptNullFree (first.both second))
    (once : first.optional = [] ∨ second.optional = []) :
    SidesJoin store archive (titleConditions first) (titleConditions second)
      (titleConditions (first.both second)) := by
  have near : ∀ {words : Query.TitleWords}, ∀ condition ∈ titleConditions words,
      condition.looksAround = false := fun _ => near_titleConditions
  have tame : ∀ {words : Query.TitleWords}, FullText.Match.KeptNullFree words →
      ∀ condition ∈ titleConditions words, condition.Tame := fun free _ member => by
    rw [eq_of_mem_titleConditions member]; exact free
  refine SidesJoin.of_near near near near
    (Joins.of_tame (tame freeFirst) (tame freeSecond) (tame freeBoth) ?_)
  rw [all_titleConditions keyed freeBoth, all_titleConditions keyed freeFirst,
    all_titleConditions keyed freeSecond, store.meetsTitle_both archive.id once]

end Sides

end Plan

namespace Search

open Plan (SidesJoin)
open Query (TagFilter)
open Store (Archive)

/-! ## Plans of both -/

section Plans

variable {store : Store} {request : Request} {options : Options}

theorem optional_resolved :
    (resolved store request options).optional =
      if ((Query.parse request.query).tags.filter (·.role = .optional)).isEmpty then none
      else some (store.carriersOf ((Query.parse request.query).tags.filter (·.role = .optional))) := by
  rw [← filter_role_queryOf request options (show Query.Role.optional ≠ .excluded by decide)]
  rfl

variable {a b : String}

/-- Excluded tags of both queries exclude what either of them excludes. -/
theorem contains_excluded_both (quoteFree : '"' ∉ a.toList) (id : Int64) :
    (resolved store (request.withQuery (a ++ " " ++ b)) options).excluded.contains id =
      ((resolved store (request.withQuery a) options).excluded.contains id ||
        (resolved store (request.withQuery b) options).excluded.contains id) := by
  have meaning : ∀ query, (resolved store (request.withQuery query) options).excluded.contains id =
      true ↔ ∃ filter, (filter ∈ (Query.parse query).tags ∨
        ∃ entry ∈ options.blacklist, TagFilter.ofBlacklistEntry? entry = some filter) ∧
        filter.role = .excluded ∧ store.carries id filter.matchesTag = true := by
    intro query
    rw [List.contains_iff_mem, resolved, Store.resolutionOf, Store.mem_carriersOf_iff]
    simp only [List.mem_filter, decide_eq_true_eq, mem_queryOf_tags, Request.withQuery, and_assoc]
  rw [Bool.eq_iff_iff, Bool.or_eq_true, meaning, meaning, meaning,
    Query.parse_append_blank b quoteFree]
  simp only [Query.both, List.mem_append, ← exists_or, ← or_and_right]
  apply exists_congr
  intro filter
  apply and_congr_left
  intro _
  tauto

/-- Only one of two queries that are apart has its optional tags resolved. -/
theorem optional_both (store : Store) (request : Request) (options : Options)
    (quoteFree : '"' ∉ a.toList)
    (apart : (Query.parse a).Apart (Query.parse b)) :
    (resolved store (request.withQuery a) options).optional = none ∧
        (resolved store (request.withQuery (a ++ " " ++ b)) options).optional =
          (resolved store (request.withQuery b) options).optional ∨
      (resolved store (request.withQuery b) options).optional = none ∧
        (resolved store (request.withQuery (a ++ " " ++ b)) options).optional =
          (resolved store (request.withQuery a) options).optional := by
  simp only [optional_resolved, Request.withQuery, Query.parse_append_blank b quoteFree, Query.both,
    List.filter_append]
  rcases apart.tags with none | none
  · rw [Query.filter_optional_eq_nil none]
    exact Or.inl ⟨rfl, rfl⟩
  · rw [Query.filter_optional_eq_nil none, List.append_nil]
    exact Or.inr ⟨rfl, rfl⟩

/-- If the optional tags of a line are not resolved to nothing, those of neither query are. -/
theorem carried_of_both (quoteFree : '"' ∉ a.toList) (apart : (Query.parse a).Apart (Query.parse b))
    (carried : (resolved store (request.withQuery (a ++ " " ++ b)) options).optional ≠ some []) :
    (resolved store (request.withQuery a) options).optional ≠ some [] ∧
      (resolved store (request.withQuery b) options).optional ≠ some [] := by
  rcases optional_both store request options quoteFree apart with ⟨unasked, same⟩ | ⟨unasked, same⟩
  · rw [unasked, ← same]
    exact ⟨(Option.some_ne_none []).symm, carried⟩
  · rw [unasked, ← same]
    exact ⟨carried, (Option.some_ne_none []).symm⟩

private theorem sidesJoin_once {α : Type} {archive : Archive} {first second : List α}
    (condition : List α → Plan.Condition) (once : first = [] ∨ second = []) :
    SidesJoin store archive (Plan.unlessEmpty first condition) (Plan.unlessEmpty second condition)
      (Plan.unlessEmpty (first ++ second) condition) := by
  rcases once with rfl | rfl
  · exact SidesJoin.right _
  · rw [List.append_nil]
    exact SidesJoin.left _

theorem nullFree_line (freeFirst : FullText.NullFree a.toList)
    (freeSecond : FullText.NullFree b.toList) : FullText.NullFree (a ++ " " ++ b).toList := by
  rw [String.toList_append, String.toList_append]
  exact (freeFirst.append (by decide)).append freeSecond

/-- The conditions of two queries that are apart join to those of their line. -/
theorem sidesJoin_planOf (keyed : store.Keyed) (quoteFree : '"' ∉ a.toList)
    (freeFirst : FullText.NullFree a.toList) (freeSecond : FullText.NullFree b.toList)
    (apart : (Query.parse a).Apart (Query.parse b)) (archive : Archive) :
    SidesJoin store archive (planOf store (request.withQuery a) options).conditions
      (planOf store (request.withQuery b) options).conditions
      (planOf store (request.withQuery (a ++ " " ++ b)) options).conditions := by
  have parsed := Query.parse_append_blank b quoteFree
  have freeBoth : FullText.Match.KeptNullFree
      ((Query.parse a).title.both (Query.parse b).title) := by
    have free : FullText.Match.KeptNullFree (Query.parse (a ++ " " ++ b)).title :=
      Query.keptNullFree_ofChars (nullFree_line freeFirst freeSecond)
    rwa [parsed] at free
  have optional : SidesJoin store archive
      ((resolved store (request.withQuery a) options).optional.map .idIn).toList
      ((resolved store (request.withQuery b) options).optional.map .idIn).toList
      ((resolved store (request.withQuery (a ++ " " ++ b)) options).optional.map .idIn).toList := by
    rcases optional_both store request options quoteFree apart with ⟨none, same⟩ | ⟨none, same⟩
    · rw [none, same]
      exact SidesJoin.right _
    · rw [none, same]
      exact SidesJoin.left _
  simp only [conditions_planOf, Request.withQuery, parsed, apart.numbers_both]
  simp only [Query.both, List.filter_append, List.map_append, List.filterMap_append]
  refine (((SidesJoin.same _).append ?tags).append ?texts).append (SidesJoin.concat _ _)
  case tags =>
    refine SidesJoin.append (SidesJoin.append (SidesJoin.concat _ _) ?_) optional
    exact Plan.sidesJoin_idNotIn (contains_excluded_both quoteFree archive.id)
  case texts =>
    refine SidesJoin.append (SidesJoin.append (SidesJoin.append ?_ (SidesJoin.concat _ _))
      (sidesJoin_once _ apart.sources)) (sidesJoin_once _ apart.urls)
    exact Plan.sidesJoin_title keyed (Query.keptNullFree_ofChars freeFirst)
      (Query.keptNullFree_ofChars freeSecond) freeBoth apart.words

end Plans

end Search
end Gallery
