import Gallery.Proofs.Plan.Counts
import Gallery.Proofs.Plan.Trial
import Mathlib.Data.List.Perm.Subperm

namespace Gallery
namespace Plan

open Query (NumberFilter)

/-!
# The size of a statement

A statement joins one table for each number that is counted, and one more for all
counts of tags together.  It nests once for each condition on top of what the
highest condition takes.  So both limits of a database are limits on the number
of filters, and searches that people write stay far below them.  The limit on
tables is the one within reach: a search that counts the tags of more than
sixty-two namespaces exceeds it.
-/

/-! ## Joins -/

theorem nodup_foldl_ensureJoin (requested : List CountJoin) {joins : List CountJoin}
    (distinct : joins.Nodup) :
    (requested.foldl ensureJoin joins).Nodup := by
  induction requested generalizing joins with
  | nil => exact distinct
  | cons join others inductionHypothesis =>
      rw [List.foldl_cons]
      refine inductionHypothesis ?_
      rw [ensureJoin]
      split
      · exact distinct
      · rename_i fresh
        refine List.nodup_append.mpr ⟨distinct, List.nodup_singleton join, ?_⟩
        intro present inJoins other isJoin same
        rw [List.mem_singleton.mp isJoin] at same
        exact fresh (List.contains_iff_mem.mpr (same ▸ inJoins))

/-- The joins that are not shared by all counts of tags. -/
def ownJoins (number : Nat) (filters : List NumberFilter) : List CountJoin :=
  (requestedJoins number filters).filter (· ≠ .tags)

theorem length_ownJoins_le (number : Nat) (filters : List NumberFilter) :
    (ownJoins number filters).length ≤ filters.length := by
  induction filters generalizing number with
  | nil => exact Nat.le_refl 0
  | cons filter others inductionHypothesis =>
      rcases filter with ⟨subject, comparison, value⟩
      cases subject with
      | pages | size => exact Nat.le_succ_of_le (inductionHypothesis number)
      | tagCount => exact Nat.le_succ_of_le (inductionHypothesis number)
      | sourceCount => exact Nat.succ_le_succ (inductionHypothesis number)
      | namespaceCount name => exact Nat.succ_le_succ (inductionHypothesis (number + 1))

/-- A plan joins at most one table for each filter, and one for all of them. -/
theorem length_joins_le (filters : List NumberFilter) :
    ((requestedJoins 0 filters).foldl ensureJoin []).length ≤ filters.length + 1 := by
  have distinct := nodup_foldl_ensureJoin (requestedJoins 0 filters) List.nodup_nil
  have inside : (requestedJoins 0 filters).foldl ensureJoin [] ⊆ .tags :: ownJoins 0 filters := by
    intro join member
    rcases mem_foldl_ensureJoin.mp member with impossible | requested
    · cases impossible
    · by_cases shared : join = .tags
      · exact shared ▸ List.mem_cons_self
      · exact List.mem_cons_of_mem _ (List.mem_filter.mpr ⟨requested, decide_eq_true shared⟩)
  exact (List.subperm_of_subset distinct inside).length_le.trans
    (Nat.succ_le_succ (length_ownJoins_le 0 filters))

/-- A filter that counts the tags of one namespace. -/
def CountsNamespace (filter : NumberFilter) : Prop :=
  ∃ name, filter.subject = .namespaceCount name

/-- Counts of namespaces ask for a join each, and none of these is another's. -/
theorem ownJoins_of_namespaces {filters : List NumberFilter} (number : Nat)
    (counts : ∀ filter ∈ filters, CountsNamespace filter) :
    (ownJoins number filters).Nodup ∧ (ownJoins number filters).length = filters.length := by
  induction filters generalizing number with
  | nil => exact ⟨List.nodup_nil, rfl⟩
  | cons filter others inductionHypothesis =>
      rcases counts filter List.mem_cons_self with ⟨name, isNamespace⟩
      rcases filter with ⟨subject, comparison, value⟩
      cases isNamespace
      have later := inductionHypothesis (number + 1) fun other member =>
        counts other (List.mem_cons_of_mem _ member)
      have own : ownJoins number (⟨.namespaceCount name, comparison, value⟩ :: others) =
          .tagsIn (label number) name :: ownJoins (number + 1) others := rfl
      rw [own]
      refine ⟨List.nodup_cons.mpr ⟨fun member => ?_, later.1⟩, congrArg Nat.succ later.2⟩
      rcases exists_label_of_requested (List.mem_filter.mp member).1 with ⟨larger, above, same⟩
      have equal := label_injective same
      omega

/-- A plan that only counts namespaces joins a table for each of them, and one more. -/
theorem le_length_joins_of_namespaces {filters : List NumberFilter}
    (counts : ∀ filter ∈ filters, CountsNamespace filter) (nonempty : filters ≠ []) :
    filters.length + 1 ≤ ((requestedJoins 0 filters).foldl ensureJoin []).length := by
  rcases ownJoins_of_namespaces 0 counts with ⟨distinct, length⟩
  have shared : .tags ∈ requestedJoins 0 filters := by
    cases filters with
    | nil => exact absurd rfl nonempty
    | cons filter others =>
        rcases counts filter List.mem_cons_self with ⟨name, isNamespace⟩
        rcases filter with ⟨subject, comparison, value⟩
        cases isNamespace
        exact List.mem_cons_self
  have unshared : .tags ∉ ownJoins 0 filters := fun member =>
    of_decide_eq_true (List.mem_filter.mp member).2 rfl
  have inside : .tags :: ownJoins 0 filters ⊆ (requestedJoins 0 filters).foldl ensureJoin [] := by
    intro join member
    refine mem_foldl_ensureJoin.mpr (Or.inr ?_)
    rcases List.mem_cons.mp member with rfl | isOwn
    · exact shared
    · exact (List.mem_filter.mp isOwn).1
  rw [← length, ← List.length_cons (a := .tags)]
  exact (List.subperm_of_subset (List.nodup_cons.mpr ⟨unshared, distinct⟩) inside).length_le

theorem length_countsFrom_le (number : Nat) (filters : List NumberFilter) :
    (countsFrom number filters).length ≤ filters.length := by
  induction filters generalizing number with
  | nil => exact Nat.le_refl 0
  | cons filter others inductionHypothesis =>
      rcases filter with ⟨subject, comparison, value⟩
      cases subject with
      | pages | size => exact Nat.le_succ_of_le (inductionHypothesis number)
      | tagCount | sourceCount => exact Nat.succ_le_succ (inductionHypothesis number)
      | namespaceCount name => exact Nat.succ_le_succ (inductionHypothesis (number + 1))

/-! ## Nesting -/

theorem chainHeight_le {parts : List Nat} {bound : Nat} (each : ∀ part ∈ parts, part ≤ bound) :
    chainHeight parts ≤ bound + parts.length := by
  have chain : ∀ (rest : List Nat) (height : Nat), (∀ part ∈ rest, part ≤ bound) →
      rest.foldl (fun height part => max height part + 1) height ≤ max height bound + rest.length := by
    intro rest
    induction rest with
    | nil => exact fun height _ => Nat.le_max_left height bound
    | cons part rest inductionHypothesis =>
        intro height small
        have first := small part List.mem_cons_self
        have others := inductionHypothesis (max height part + 1) fun other member =>
          small other (List.mem_cons_of_mem _ member)
        rw [List.foldl_cons, List.length_cons]
        omega
  cases parts with
  | nil => exact Nat.zero_le _
  | cons first rest =>
      have small := each first List.mem_cons_self
      have others := chain rest first fun other member => each other (List.mem_cons_of_mem _ member)
      rw [chainHeight, List.length_cons]
      omega

/-- A further part that is no higher than the chain makes it one level higher. -/
theorem chainHeight_append_replicate {first part : Nat} {rest : List Nat}
    (low : part ≤ chainHeight (first :: rest)) (count : Nat) :
    chainHeight (first :: rest ++ List.replicate count part) =
      chainHeight (first :: rest) + count := by
  rw [List.cons_append, chainHeight, List.foldl_append]
  change (List.replicate count part).foldl _ (chainHeight (first :: rest)) = _
  generalize chainHeight (first :: rest) = height at low
  induction count generalizing height with
  | zero => rfl
  | succ count inductionHypothesis =>
      have later := inductionHypothesis (height + 1) (Nat.le_succ_of_le low)
      rw [List.replicate_succ, List.foldl_cons, Nat.max_eq_left low, later]
      omega

/-- The sign of a single id makes the chain higher, here from a thousand levels to one more.  In a
longer list it does not. -/
example : chainHeight ([3, idListHeight [5]] ++ List.replicate 996 3) = 1000 ∧
    chainHeight ([3, idListHeight [-5]] ++ List.replicate 996 3) = 1001 ∧
    chainHeight ([3, idListHeight [-5, 5]] ++ List.replicate 996 3) = 1000 :=
  ⟨chainHeight_append_replicate (by decide) 996, chainHeight_append_replicate (by decide) 996,
    chainHeight_append_replicate (by decide) 996⟩

/-- A fold that never falls and keeps the order of its states grows with what it is over. -/
theorem foldl_le_of_sublist {step : Nat → Nat → Nat} (grows : ∀ state part, state ≤ step state part)
    (ordered : ∀ {low high} part, low ≤ high → step low part ≤ step high part)
    {fewer parts : List Nat} (inside : fewer.Sublist parts) {low high : Nat} (below : low ≤ high) :
    fewer.foldl step low ≤ parts.foldl step high := by
  induction inside generalizing low high with
  | slnil => exact below
  | cons part _ inductionHypothesis =>
      exact inductionHypothesis (below.trans (grows high part))
  | cons_cons part _ inductionHypothesis => exact inductionHypothesis (ordered part below)

/-- A chain of fewer parts is no higher. -/
theorem chainHeight_le_of_sublist {fewer parts : List Nat} (inside : fewer.Sublist parts) :
    chainHeight fewer ≤ chainHeight parts := by
  have grows : ∀ height part, height ≤ max height part + 1 := fun height part =>
    Nat.le_succ_of_le (Nat.le_max_left height part)
  have ordered : ∀ {low high : Nat} (part : Nat), low ≤ high →
      max low part + 1 ≤ max high part + 1 := by omega
  induction inside with
  | slnil => exact Nat.le_refl 0
  | @cons _ parts part _ inductionHypothesis =>
      refine inductionHypothesis.trans ?_
      cases parts with
      | nil => exact Nat.zero_le _
      | cons first rest =>
          exact foldl_le_of_sublist grows ordered (List.Sublist.refl rest)
            (Nat.le_succ_of_le (Nat.le_max_right part first))
  | cons_cons first inRest _ =>
      exact foldl_le_of_sublist grows ordered inRest (Nat.le_refl first)

/-- A plan nests no deeper than one with the same counts whose conditions are as high and more. -/
theorem nesting_le_of_sublist {plan larger : Plan} (joins : plan.joins = larger.joins)
    (having : plan.having = larger.having)
    (heights : (plan.conditions.filterMap Condition.height?).Sublist
      (larger.conditions.filterMap Condition.height?))
    (inner : (plan.conditions.map Condition.innerHeight).foldl max 0 ≤
      (larger.conditions.map Condition.innerHeight).foldl max 0) :
    plan.nesting ≤ larger.nesting := by
  have tree : plan.treeHeight ≤ larger.treeHeight := by
    rw [treeHeight, treeHeight, joins]
    exact chainHeight_le_of_sublist (heights.append (List.Sublist.refl _))
  rw [nesting, nesting, having]
  omega

/-- The number of alternatives that a condition has, if it has any. -/
def Condition.width : Condition → Nat
  | .anySourceName patterns => patterns.length
  | .anySourceUrl texts => texts.length
  | _ => 0

/-- A list of ids is low, whatever the ids are. -/
theorem idListHeight_le (ids : List Int64) : idListHeight ids ≤ 4 := by
  fun_cases idListHeight ids with
  | case1 => decide
  | case2 id => decide
  | case3 id => decide
  | case4 first second rest => decide

/-- All lists are of one height but those of nothing and of one negative id. -/
theorem idListHeight_of_unsigned {ids : List Int64} (nonempty : ids ≠ [])
    (unsigned : ∀ id < 0, ids ≠ [id]) : idListHeight ids = 3 := by
  fun_cases idListHeight ids with
  | case1 => exact absurd rfl nonempty
  | case2 id negative => exact absurd rfl (unsigned id negative)
  | case3 | case4 => rfl

/-- What a list keeps is as high as the list, unless it is nothing or one negative id. -/
theorem idListHeight_filter {ids : List Int64} {kept : Int64 → Bool}
    (remains : ids.filter kept ≠ []) (unsigned : ∀ id < 0, ids.filter kept ≠ [id]) :
    idListHeight (ids.filter kept) = idListHeight ids := by
  have nonempty : ids ≠ [] := fun empty => remains (by rw [empty, List.filter_nil])
  have unsignedToo : ∀ id < 0, ids ≠ [id] := by
    intro id negative single
    have inside : (ids.filter kept).Sublist [id] := single ▸ List.filter_sublist
    rcases List.sublist_singleton.mp inside with nothing | same
    · exact remains nothing
    · exact unsigned id negative same
  rw [idListHeight_of_unsigned remains unsigned, idListHeight_of_unsigned nonempty unsignedToo]

theorem Condition.height_le {condition : Condition} {height : Nat}
    (written : condition.height? = some height) : height ≤ condition.width + 6 := by
  have alternatives : ∀ texts : List String,
      chainHeight (texts.map fun _ => 5) ≤ texts.length + 6 := by
    intro texts
    have small : ∀ part ∈ texts.map fun _ => 5, part ≤ 5 := by
      intro part member
      rcases List.mem_map.mp member with ⟨_, _, rfl⟩
      exact Nat.le_refl 5
    have bounded := chainHeight_le small
    rw [List.length_map] at bounded
    omega
  cases condition with
  | anySourceName patterns =>
      cases written
      exact alternatives patterns
  | anySourceUrl texts =>
      cases written
      exact alternatives texts
  | fullText words =>
      rcases Option.map_eq_some_iff.mp written with ⟨expression, _, isHeight⟩
      cases expression with
      | matching _ =>
          cases isHeight
          exact Nat.le_of_ble_eq_true rfl
      | excluding _ =>
          cases isHeight
          exact Nat.le_of_ble_eq_true rfl
  | idIn ids =>
      cases written
      exact (idListHeight_le ids).trans (by omega)
  | idNotIn ids =>
      cases written
      have low := idListHeight_le ids
      split <;> omega
  | hasTag _ _ | compare _ _ _ | language _ | inSeries | visible =>
      cases written
      exact Nat.le_add_left _ _

theorem Condition.innerHeight_le (condition : Condition) : condition.innerHeight ≤ 6 := by
  cases condition with
  | fullText words =>
      rw [innerHeight]
      split <;> decide
  | hasTag _ _ | idIn _ | idNotIn _ | compare _ _ _ | language _ | anySourceName _
  | anySourceUrl _ | inSeries | visible => exact Nat.le_of_ble_eq_true rfl

theorem length_orderedJoins (joins : List CountJoin) :
    (orderedJoins joins).length = joins.length := by
  induction joins with
  | nil => rfl
  | cons join others inductionHypothesis =>
      simp only [orderedJoins, List.length_append, ne_eq, decide_not] at inductionHypothesis ⊢
      cases join <;> simp <;> omega

theorem foldl_max_le {parts : List Nat} {bound : Nat} (each : ∀ part ∈ parts, part ≤ bound)
    {start : Nat} (small : start ≤ bound) : parts.foldl max start ≤ bound := by
  induction parts generalizing start with
  | nil => exact small
  | cons part rest inductionHypothesis =>
      exact inductionHypothesis (fun other member => each other (List.mem_cons_of_mem _ member))
        (Nat.max_le.mpr ⟨small, each part List.mem_cons_self⟩)

/-- How deep a plan nests, at most. -/
theorem nesting_le {plan : Plan} {width : Nat}
    (narrow : ∀ condition ∈ plan.conditions, condition.width ≤ width) :
    plan.nesting ≤ max (width + plan.conditions.length + plan.joins.length + 12)
      (plan.having.length + 4) := by
  have rows : plan.treeHeight ≤ width + 6 + (plan.conditions.length + plan.joins.length) := by
    have small : ∀ part ∈ plan.conditions.filterMap Condition.height? ++
        (orderedJoins plan.joins).map CountJoin.height, part ≤ width + 6 := by
      intro part member
      rcases List.mem_append.mp member with inConditions | inJoins
      · rcases List.mem_filterMap.mp inConditions with ⟨condition, present, written⟩
        have height := Condition.height_le written
        have wide := narrow condition present
        omega
      · rcases List.mem_map.mp inJoins with ⟨join, _, isHeight⟩
        have low : join.height ≤ 4 := by cases join <;> exact Nat.le_of_ble_eq_true rfl
        omega
    have bounded := chainHeight_le small
    have fewer : (plan.conditions.filterMap Condition.height?).length ≤ plan.conditions.length :=
      List.length_filterMap_le _ _
    rw [List.length_append, List.length_map, length_orderedJoins] at bounded
    rw [treeHeight]
    omega
  have inner : (plan.conditions.map Condition.innerHeight).foldl max 0 ≤ 6 := by
    refine foldl_max_le (fun part member => ?_) (Nat.zero_le 6)
    rcases List.mem_map.mp member with ⟨condition, _, rfl⟩
    exact condition.innerHeight_le
  have groups : chainHeight (plan.having.map fun _ => 4) ≤ 4 + plan.having.length := by
    have small : ∀ part ∈ plan.having.map fun _ => 4, part ≤ 4 := by
      intro part member
      rcases List.mem_map.mp member with ⟨_, _, rfl⟩
      exact Nat.le_refl 4
    have bounded := chainHeight_le small
    rwa [List.length_map] at bounded
  rw [nesting]
  omega

end Plan
end Gallery
