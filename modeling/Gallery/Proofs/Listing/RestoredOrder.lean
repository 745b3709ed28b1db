import Gallery.Listing.Row
import Mathlib.Data.List.Induction
import Mathlib.Data.List.Nodup
import Mathlib.Data.Nat.Init
import Mathlib.Tactic.Common

namespace Gallery

/-!
# Items in a restored order

Putting items into an order can be seen as taking them out of a table that holds them by
their ids.  An item that is put into the table takes the place of an earlier one with its
id, and an id that takes its item out finds none when it comes again.  So repetitions on
both sides meet in the table: what counts is the last item with an id, and the first
place where the id is asked for.
-/

/-! ## The first occurrences in a list -/

section FirstOccurrences

variable {α β : Type} [DecidableEq α]

theorem eraseDups_filter (kept : α → Bool) (items : List α) :
    (items.filter kept).eraseDups = items.eraseDups.filter kept := by
  -- What is erased after the first item is not the rest of the list, but it is shorter.
  induction length : items.length using Nat.strong_induction_on generalizing items with
  | h length inductionHypothesis =>
      cases items with
      | nil => rfl
      | cons item items =>
          subst length
          have shorter : (items.filter fun other => !other == item).length <
              (item :: items).length :=
            Nat.lt_succ_of_le (List.length_filter_le _ _)
          have later := inductionHypothesis _ shorter (items.filter fun other => !other == item) rfl
          rw [List.eraseDups_cons]
          by_cases isKept : kept item = true
          · rw [List.filter_cons_of_pos isKept, List.filter_cons_of_pos isKept,
              List.eraseDups_cons, ← later, List.filter_filter, List.filter_filter]
            refine congrArg (fun others : List α => item :: others.eraseDups) ?_
            exact List.filter_congr fun other _ => Bool.and_comm _ _
          · rw [List.filter_cons_of_neg isKept, List.filter_cons_of_neg isKept, ← later,
              List.filter_filter]
            refine congrArg List.eraseDups (List.filter_congr fun other _ => ?_)
            by_cases same : other = item
            · rw [same, Bool.eq_false_iff.mpr isKept, Bool.false_and]
            · rw [beq_eq_false_iff_ne.mpr same, Bool.not_false, Bool.and_true]

/-- After its first occurrence, an item is looked up no more. -/
theorem filterMap_eraseDups_cons (find : α → Option β) (item : α) (items : List α) :
    (item :: items).eraseDups.filterMap find =
      (find item).toList ++
        items.eraseDups.filterMap fun other => if item = other then none else find other := by
  have later : (items.filter fun other => !other == item).eraseDups.filterMap find =
      items.eraseDups.filterMap fun other => if item = other then none else find other := by
    rw [eraseDups_filter, List.filterMap_filter]
    refine List.filterMap_congr fun other _ => ?_
    by_cases same : item = other
    · simp [same]
    · simp [same, Ne.symm same]
  rw [List.eraseDups_cons, List.filterMap_cons, later]
  cases find item <;> rfl

/-- The first occurrences in a list are different. -/
theorem nodup_eraseDups (items : List α) : items.eraseDups.Nodup := by
  induction items with
  | nil => exact List.nodup_nil
  | cons item items inductionHypothesis =>
      rw [List.eraseDups_cons, eraseDups_filter]
      refine List.nodup_cons.mpr ⟨fun again => ?_, inductionHypothesis.filter _⟩
      have differs := (List.mem_filter.mp again).2
      rw [beq_self_eq_true] at differs
      exact Bool.noConfusion differs

/-- A list without repetitions has nothing to erase. -/
theorem eraseDups_of_nodup {items : List α} (distinct : items.Nodup) : items.eraseDups = items := by
  induction items with
  | nil => rfl
  | cons item items inductionHypothesis =>
      rcases List.nodup_cons.mp distinct with ⟨fresh, later⟩
      rw [List.eraseDups_cons, List.filter_eq_self.mpr, inductionHypothesis later]
      intro other member
      rw [Bool.not_eq_true', beq_eq_false_iff_ne]
      rintro rfl
      exact fresh member

end FirstOccurrences

namespace Listing

/-! ## The last item with an id -/

section LastItems

variable {items : List Item}

theorem lastWithId_eq (items : List Item) (id : Int64) :
    lastWithId items id = items.reverse.find? fun item => item.id = id :=
  List.getLast?_filter

/-- An item at the end takes the place of the others with its id. -/
theorem lastWithId_concat (items : List Item) (item : Item) (id : Int64) :
    lastWithId (items ++ [item]) id = if item.id = id then some item else lastWithId items id := by
  rw [lastWithId_eq, lastWithId_eq, List.reverse_concat, List.find?_cons]
  by_cases same : item.id = id <;> simp [same]

/-- Without the items of one id, the other ids have the items that they had. -/
theorem lastWithId_filter (items : List Item) (id other : Int64) :
    lastWithId (items.filter fun item => item.id ≠ id) other =
      if id = other then none else lastWithId items other := by
  rw [lastWithId_eq, lastWithId_eq, ← List.filter_reverse, List.find?_filter]
  by_cases same : id = other
  · subst same
    rw [if_pos rfl, List.find?_eq_none]
    intro item _
    by_cases isOwn : item.id = id <;> simp [isOwn]
  · rw [if_neg same]
    refine congrArg (List.find? · _) (funext fun item => ?_)
    by_cases isOther : item.id = other
    · simp [isOther, Ne.symm same]
    · simp [isOther]

theorem lastWithId_eq_some_iff {id : Int64} {item : Item} :
    lastWithId items id = some item ↔
      item.id = id ∧ ∃ before after, items = before ++ item :: after ∧
        ∀ other ∈ after, other.id ≠ id := by
  rw [lastWithId_eq, List.find?_eq_some_iff_append, decide_eq_true_eq]
  refine and_congr_right fun _ => ?_
  constructor
  · rintro ⟨after, before, reversed, others⟩
    refine ⟨before.reverse, after.reverse, ?_, fun other member => ?_⟩
    · rw [← List.reverse_reverse items, reversed, List.reverse_append, List.reverse_cons,
        List.append_assoc, List.singleton_append]
    · simpa using others other (List.mem_reverse.mp member)
  · rintro ⟨before, after, rfl, others⟩
    refine ⟨after.reverse, before.reverse, ?_, fun other member => ?_⟩
    · rw [List.reverse_append, List.reverse_cons, List.append_assoc, List.singleton_append]
    · simpa using others other (List.mem_reverse.mp member)

/-- An id has a last item if it has one at all, and that item bears it. -/
theorem map_id_lastWithId (items : List Item) (id : Int64) :
    (lastWithId items id).map Item.id =
      if items.any (fun item => item.id = id) then some id else none := by
  cases found : lastWithId items id with
  | some item =>
      rcases lastWithId_eq_some_iff.mp found with ⟨isOwn, before, after, rfl, _⟩
      rw [if_pos, Option.map_some, isOwn]
      exact List.any_eq_true.mpr ⟨item, List.mem_append_right _ List.mem_cons_self,
        decide_eq_true isOwn⟩
  | none =>
      rw [lastWithId, List.getLast?_eq_none_iff, List.filter_eq_nil_iff] at found
      rw [if_neg, Option.map_none]
      rw [List.any_eq_true]
      rintro ⟨item, member, isOwn⟩
      exact found item member isOwn

end LastItems

/-! ## The table of items -/

/-- The items by their ids, put into a table one after the other. -/
def byId (items : List Item) : Std.HashMap Int64 Item :=
  items.foldl (fun table item => table.insert item.id item) ∅

/-- Takes the items with the given ids out of a table, one after the other. -/
def takeOut (table : Std.HashMap Int64 Item) : List Int64 → List Item
  | [] => []
  | id :: order =>
      match table[id]? with
      | some item => item :: takeOut (table.erase id) order
      | none => takeOut table order

/-- The table holds the last item with each id. -/
theorem getElem?_byId (items : List Item) (id : Int64) :
    (byId items)[id]? = lastWithId items id := by
  induction items using List.reverseRecOn with
  | nil => exact Std.HashMap.getElem?_empty
  | append_singleton items item inductionHypothesis =>
      rw [lastWithId_concat, ← inductionHypothesis, byId, List.foldl_concat,
        Std.HashMap.getElem?_insert, ← byId]
      by_cases same : item.id = id <;> simp [same]

theorem takeOut_eq (table : Std.HashMap Int64 Item) (order : List Int64) :
    takeOut table order = order.eraseDups.filterMap fun id => table[id]? := by
  induction order generalizing table with
  | nil => rfl
  | cons id order inductionHypothesis =>
      rw [filterMap_eraseDups_cons, takeOut]
      cases found : table[id]? with
      | some item =>
          refine congrArg (item :: ·) ((inductionHypothesis _).trans ?_)
          refine List.filterMap_congr fun other _ => ?_
          rw [Std.HashMap.getElem?_erase]
          by_cases same : id = other <;> simp [same]
      | none =>
          refine (inductionHypothesis table).trans (List.filterMap_congr fun other _ => ?_)
          by_cases same : id = other
          · rw [if_pos same, ← same, found]
          · rw [if_neg same]

/-- The items are taken out of a table that holds the last item with each id. -/
theorem restoreOrder_eq_takeOut {items : List Item} {table : Std.HashMap Int64 Item}
    (holds : ∀ id, table[id]? = lastWithId items id) (order : List Int64) :
    restoreOrder items order = takeOut table order := by
  induction order generalizing items table with
  | nil => rfl
  | cons id order inductionHypothesis =>
      rw [restoreOrder, takeOut, holds id]
      cases lastWithId items id with
      | none => exact inductionHypothesis holds
      | some item =>
          refine congrArg (item :: ·) (inductionHypothesis fun other => ?_)
          rw [Std.HashMap.getElem?_erase, lastWithId_filter, holds other]
          by_cases same : id = other <;> simp [same]

/-- Every id takes its item at the first place where it is asked for. -/
theorem restoreOrder_eq (items : List Item) (order : List Int64) :
    restoreOrder items order = order.eraseDups.filterMap (lastWithId items) := by
  rw [restoreOrder_eq_takeOut (getElem?_byId items), takeOut_eq]
  exact List.filterMap_congr fun id _ => getElem?_byId items id

theorem restoreOrder_nil (order : List Int64) : restoreOrder [] order = [] := by
  rw [restoreOrder_eq]
  exact List.filterMap_eq_nil_iff.mpr fun _ _ => rfl

/-- The ids of the items that are put into an order: those of the order that some item has,
each where it first occurs. -/
theorem ids_restoreOrder (items : List Item) (order : List Int64) :
    (restoreOrder items order).map Item.id =
      (order.filter fun id => items.any fun item => item.id = id).eraseDups := by
  rw [restoreOrder_eq, eraseDups_filter, List.map_filterMap, ← List.filterMap_eq_filter]
  refine List.filterMap_congr fun id _ => ?_
  rw [map_id_lastWithId, Option.guard]

/-! ## Items of rows -/

section Rows

variable {α : Type} {key : α → Int64} {item : α → Item}

theorem lastWithId_map (own : ∀ row, (item row).id = key row) {rows : List α}
    (unique : (rows.map key).Nodup) (id : Int64) :
    lastWithId (rows.map item) id = (rows.find? fun row => key row = id).map item := by
  induction rows with
  | nil => rfl
  | cons row rows inductionHypothesis =>
      rcases List.nodup_cons.mp unique with ⟨fresh, later⟩
      unfold lastWithId at inductionHypothesis ⊢
      by_cases isFirst : key row = id
      · have othersDiffer : (rows.map item).filter (fun other => other.id = id) = [] := by
          refine List.filter_eq_nil_iff.mpr (List.forall_mem_map.mpr fun other member same => ?_)
          refine fresh (List.mem_map.mpr ⟨other, member, ?_⟩)
          rw [isFirst, ← own, of_decide_eq_true same]
        rw [List.map_cons, List.filter_cons_of_pos (by simpa [own] using isFirst), othersDiffer,
          List.find?_cons_of_pos (by simpa using isFirst)]
        rfl
      · have notFirst : (item row).id ≠ id := fun same => isFirst ((own row).symm.trans same)
        rw [List.map_cons, List.filter_cons_of_neg (by simpa using notFirst),
          inductionHypothesis later, List.find?_cons_of_neg (by simpa using isFirst)]

/-- Items of rows with different keys come in the order in which their keys first occur. -/
theorem restoreOrder_map (own : ∀ row, (item row).id = key row) {rows : List α}
    (unique : (rows.map key).Nodup) (order : List Int64) :
    restoreOrder (rows.map item) order =
      (order.eraseDups.filterMap fun id => rows.find? fun row => key row = id).map item := by
  rw [restoreOrder_eq, List.map_filterMap]
  exact List.filterMap_congr fun id _ => lastWithId_map own unique id

end Rows

/-! ## What is restored -/

/-- The ids of items that are put into an order are those of the order without the unknown
ones, each at its first occurrence.  Each item is the last one with its id, no id comes
twice, and no item that is asked for is lost. -/
theorem restoreOrder_takes_last_items (items : List Item) (order : List Int64) :
    (restoreOrder items order).map Item.id =
      (order.filter fun id => items.any fun item => item.id = id).eraseDups ∧
    (∀ item ∈ restoreOrder items order, ∃ before after, items = before ++ item :: after ∧
      ∀ other ∈ after, other.id ≠ item.id) ∧
    ((restoreOrder items order).map Item.id).Nodup ∧
    ∀ item ∈ items, item.id ∈ order → item.id ∈ (restoreOrder items order).map Item.id := by
  refine ⟨ids_restoreOrder items order, fun item member => ?_, ?_, fun item member wanted => ?_⟩
  · rw [restoreOrder_eq] at member
    rcases List.mem_filterMap.mp member with ⟨id, _, found⟩
    rcases lastWithId_eq_some_iff.mp found with ⟨rfl, isLast⟩
    exact isLast
  · rw [ids_restoreOrder]
    exact nodup_eraseDups _
  · rw [ids_restoreOrder, List.mem_eraseDups, List.mem_filter]
    exact ⟨wanted, List.any_eq_true.mpr ⟨item, member, decide_eq_true rfl⟩⟩

/-- An item that its hash tells apart from others with its id. -/
def hashedItem (id : Int64) (hash : String) : Item where
  id := id
  hash := hash
  title := ""
  pages := 0
  thumbnail := 1
  deleted := false
  tags := []

/-- The theorem at work where ids repeat on both sides and one of them is unknown. -/
theorem repeated_items_in_order :
    (restoreOrder [hashedItem 1 "a", hashedItem 2 "b", hashedItem 1 "c"] [2, 9, 1, 2, 1]).map
        Item.id = [2, 1] ∧
      hashedItem 1 "c" ∈
        restoreOrder [hashedItem 1 "a", hashedItem 2 "b", hashedItem 1 "c"] [2, 9, 1, 2, 1] ∧
      (∃ before after, [hashedItem 1 "a", hashedItem 2 "b", hashedItem 1 "c"] =
          before ++ hashedItem 1 "c" :: after ∧ ∀ other ∈ after, other.id ≠ 1) ∧
      hashedItem 1 "a" ∈ [hashedItem 1 "a", hashedItem 2 "b", hashedItem 1 "c"] ∧
      (1 : Int64) ∈ ([2, 9, 1, 2, 1] : List Int64) ∧
      1 ∈ (restoreOrder [hashedItem 1 "a", hashedItem 2 "b", hashedItem 1 "c"]
        [2, 9, 1, 2, 1]).map Item.id := by
  have restored := restoreOrder_takes_last_items
    [hashedItem 1 "a", hashedItem 2 "b", hashedItem 1 "c"] [2, 9, 1, 2, 1]
  have shown : hashedItem 1 "c" ∈
      restoreOrder [hashedItem 1 "a", hashedItem 2 "b", hashedItem 1 "c"] [2, 9, 1, 2, 1] := by
    decide
  have asked : (1 : Int64) ∈ ([2, 9, 1, 2, 1] : List Int64) := by decide
  exact ⟨restored.1.trans (by decide), shown, restored.2.1 _ shown, List.mem_cons_self, asked,
    restored.2.2.2 (hashedItem 1 "a") List.mem_cons_self asked⟩

end Listing
end Gallery
