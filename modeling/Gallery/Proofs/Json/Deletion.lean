import Gallery.Proofs.Json.Records
import Gallery.Proofs.Json.RoundTrip

namespace Gallery
namespace Json

/-!
# Values without some of their fields

A deletion says which fields are taken out of a value, each given by the way that leads
to it: the names of the fields on the way and the places of the items.  What is deleted
inside of a part is a deletion of its own.

A record is read by its fields one at a time.  So it is enough to know of each field
that it is read back where it is given; where it has been deleted, its default stands.
-/

/-- A step from a value into one of its parts. -/
inductive Step where
  | field (name : String)
  | item (index : Nat)
deriving DecidableEq

/-- Which fields are taken out of a value. -/
def Deletion :=
  List Step → Bool

namespace Deletion

/-- The deletion of nothing. -/
def none : Deletion :=
  fun _ => false

/-- What is deleted inside of a part. -/
def below (deletion : Deletion) (step : Step) : Deletion :=
  fun path => deletion (step :: path)

/-- Whether a field is deleted. -/
def drops (deletion : Deletion) (name : String) : Bool :=
  deletion [.field name]

/-- A field with its default, if it is deleted. -/
def complete {α : Type} (deletion : Deletion) (name : String) (default value : α) : α :=
  if deletion.drops name then default else value

end Deletion

mutual

/-- A value without the fields that are deleted. -/
def prune (deletion : Deletion) : Json → Json
  | .array items => .array (pruneItems deletion 0 items)
  | .object members => .object (pruneMembers deletion members)
  | value => value

/-- The items of an array from the given index on. -/
def pruneItems (deletion : Deletion) (index : Nat) : List Json → List Json
  | [] => []
  | item :: rest =>
      prune (deletion.below (.item index)) item :: pruneItems deletion (index + 1) rest

/-- The members of an object.  A garbled key names no field. -/
def pruneMembers (deletion : Deletion) : List (Option String × Json) → List (Option String × Json)
  | [] => []
  | (some name, value) :: rest =>
      if deletion.drops name then pruneMembers deletion rest
      else (some name, prune (deletion.below (.field name)) value) :: pruneMembers deletion rest
  | (.none, value) :: rest => (.none, value) :: pruneMembers deletion rest

end

/-! ## Parts that are left -/

theorem pruneItems_eq (deletion : Deletion) (first : Nat) (items : List Json) :
    pruneItems deletion first items =
      items.mapIdx fun index item => item.prune (deletion.below (.item (first + index))) := by
  induction items generalizing first with
  | nil => rfl
  | cons item rest inductionHypothesis =>
      rw [pruneItems, inductionHypothesis, List.mapIdx_cons, Nat.add_zero]
      congr 2
      funext index
      rw [Nat.add_assoc, Nat.add_comm 1]

theorem prune_array (deletion : Deletion) (items : List Json) :
    prune deletion (.array items) =
      .array (items.mapIdx fun index item => item.prune (deletion.below (.item index))) := by
  simp only [prune, pruneItems_eq, Nat.zero_add]

theorem mapIdx_eq_self {α : Type} {change : Nat → α → α} {items : List α}
    (same : ∀ index, ∀ item ∈ items, change index item = item) : items.mapIdx change = items := by
  apply List.ext_getElem (List.length_mapIdx ..)
  intro index _ inRange
  rw [List.getElem_mapIdx]
  exact same index _ (List.getElem_mem inRange)

/-- Where nothing is deleted, everything is left. -/
theorem prune_none (value : Json) : value.prune .none = value := by
  induction value with
  | null | bool value | integer value | real literal | string text | garbled => rfl
  | array items inductionHypothesis =>
      rw [prune_array]
      exact congrArg Json.array (mapIdx_eq_self fun _ => inductionHypothesis)
  | object members inductionHypothesis =>
      apply congrArg Json.object
      induction members with
      | nil => rfl
      | cons member rest restHypothesis =>
          obtain ⟨unchanged, others⟩ := List.forall_mem_cons.mp inductionHypothesis
          obtain ⟨key, value⟩ := member
          cases key with
          | none => exact congrArg _ (restHypothesis others)
          | some name =>
              exact congrArg₂ List.cons (congrArg (Prod.mk (some name)) unchanged)
                (restHypothesis others)

/-- What is left of an object is left of its members. -/
theorem exists_of_mem_pruneMembers {deletion : Deletion} {members : List (Option String × Json)}
    {left : Option String × Json} (member : left ∈ pruneMembers deletion members) :
    ∃ old ∈ members, left.2 = old.2 ∨ ∃ inside, left.2 = old.2.prune inside := by
  induction members with
  | nil => cases member
  | cons first rest inductionHypothesis =>
      have later (inRest : left ∈ pruneMembers deletion rest) :
          ∃ old ∈ first :: rest, left.2 = old.2 ∨ ∃ inside, left.2 = old.2.prune inside := by
        obtain ⟨old, oldMember, same⟩ := inductionHypothesis inRest
        exact ⟨old, List.mem_cons_of_mem first oldMember, same⟩
      obtain ⟨key, value⟩ := first
      cases key with
      | none =>
          rcases List.mem_cons.mp member with rfl | inRest
          · exact ⟨_, List.mem_cons_self, .inl rfl⟩
          · exact later inRest
      | some name =>
          unfold pruneMembers at member
          split at member
          · exact later member
          · rcases List.mem_cons.mp member with rfl | inRest
            · exact ⟨_, List.mem_cons_self, .inr ⟨_, rfl⟩⟩
            · exact later inRest

/-- What is left of a proper value is proper. -/
theorem proper_prune {value : Json} (proper : Proper value) (deletion : Deletion) :
    Proper (value.prune deletion) := by
  induction proper generalizing deletion with
  | null => exact .null
  | bool value => exact .bool value
  | integer value => exact .integer value
  | real nonempty spelled isReal => exact .real nonempty spelled isReal
  | string text => exact .string text
  | garbled => exact .garbled
  | array each inductionHypothesis =>
      rw [prune_array]
      apply Proper.array
      intro left member
      obtain ⟨index, inRange, rfl⟩ := List.mem_mapIdx.mp member
      exact inductionHypothesis _ (List.getElem_mem inRange) _
  | object each inductionHypothesis =>
      apply Proper.object
      intro left member
      obtain ⟨old, oldMember, same | ⟨inside, same⟩⟩ := exists_of_mem_pruneMembers member
      · exact same ▸ each old oldMember
      · exact same ▸ inductionHypothesis old oldMember inside

/-! ## Records -/

namespace Record

/-- What is left of the fields of a record. -/
def remaining (deletion : Deletion) (fields : List (String × Json)) : List (String × Json) :=
  fields.filterMap fun field =>
    if deletion.drops field.1 then none
    else some (field.1, field.2.prune (deletion.below (.field field.1)))

theorem prune_record (deletion : Deletion) (fields : List (String × Json)) :
    (record fields).prune deletion = record (remaining deletion fields) := by
  have members : pruneMembers deletion (fields.map fun field => (some field.1, field.2)) =
      (remaining deletion fields).map fun field => (some field.1, field.2) := by
    induction fields with
    | nil => rfl
    | cons field rest inductionHypothesis =>
        unfold remaining at *
        rw [List.map_cons, pruneMembers, List.filterMap_cons, inductionHypothesis]
        split <;> rfl
  exact congrArg Json.object members

end Record

namespace Deletion

/-- The slot that a record has for a field. -/
def slot (deletion : Deletion) (name : String) (value : Json) : Slot :=
  if deletion.drops name then .omitted else .given (value.prune (deletion.below (.field name)))

/-- The record that is read of what is left of some fields. -/
def read (deletion : Deletion) (fields : List (String × Json)) : Record where
  slots := fields.map fun field => (field.1, deletion.slot field.1 field.2)

/-- A field is looked up by its name. -/
theorem field_read (deletion : Deletion) (wanted name : String) (value : Json)
    (rest : List (String × Json)) :
    (deletion.read ((name, value) :: rest)).field wanted =
      if wanted = name then deletion.slot name value else (deletion.read rest).field wanted := by
  unfold read Record.field
  rw [List.map_cons, List.lookup_cons]
  by_cases same : wanted = name
  · simp [same]
  · simp [same, beq_eq_false_iff_ne.mpr same]

end Deletion

namespace Record

variable {deletion : Deletion}

theorem keys_remaining (fields : List (String × Json)) :
    (remaining deletion fields).map Prod.fst =
      (fields.map Prod.fst).filter fun name => !deletion.drops name := by
  unfold remaining
  induction fields with
  | nil => rfl
  | cons field rest inductionHypothesis =>
      rw [List.filterMap_cons, List.map_cons, List.filter_cons]
      cases dropped : deletion.drops field.1 <;> simp [inductionHypothesis]

theorem nodup_remaining {fields : List (String × Json)} (unique : (fields.map Prod.fst).Nodup) :
    ((remaining deletion fields).map Prod.fst).Nodup := by
  rw [keys_remaining]
  exact unique.filter _

/-- What is left of a record has a slot for every field. -/
theorem named_remaining {fields : List (String × Json)} (unique : (fields.map Prod.fst).Nodup)
    {field : String × Json} (member : field ∈ fields) :
    named (remaining deletion fields) field.1 = deletion.slot field.1 field.2 := by
  unfold Deletion.slot
  split
  · rename_i dropped
    apply named_of_not_mem
    simp [keys_remaining, dropped]
  · rename_i kept
    have left : (field.1, field.2.prune (deletion.below (.field field.1))) ∈
        remaining deletion fields :=
      List.mem_filterMap.mpr ⟨field, member, if_neg kept⟩
    exact named_of_mem (nodup_remaining unique) left

/-- What is left of a record is read as a record in which the deleted fields are omitted. -/
theorem bind_ofJson? {α : Type} (deletion : Deletion) {names : List String}
    {fields : List (String × Json)} (isNamed : fields.map Prod.fst = names) (unique : names.Nodup)
    (next : Record → Option α) :
    (ofJson? names ((record fields).prune deletion) >>= next) = next (deletion.read fields) := by
  subst isNamed
  have same : ofFields (fields.map Prod.fst) (remaining deletion fields) =
      deletion.read fields := by
    unfold ofFields Deletion.read
    rw [List.map_map, Record.mk.injEq]
    apply List.map_congr_left
    intro field member
    rw [Function.comp_apply, named_remaining unique member]
  rw [prune_record, ofJson?_record _ (nodup_remaining unique), same]
  rfl

end Record

/-! ## Fields -/

section Fields

variable {α β : Type} {deletion : Deletion} {name : String} {value : Json} {default result : α}
  {decode : Json → Option α}

/-- A field that is read back where it is given has its default where it is deleted. -/
theorem bind_withDefault
    (decoded : decode (value.prune (deletion.below (.field name))) = some result)
    (next : α → Option β) :
    ((deletion.slot name value).withDefault default decode >>= next) =
      next (deletion.complete name default result) := by
  unfold Deletion.slot Deletion.complete
  split
  · rfl
  · simp only [Slot.withDefault, decoded, Option.bind_eq_bind, Option.bind_some]

theorem bind_required (kept : deletion.drops name = false)
    (decoded : decode (value.prune (deletion.below (.field name))) = some result)
    (next : α → Option β) :
    ((deletion.slot name value).required decode >>= next) = next result := by
  unfold Deletion.slot
  simp only [kept, Bool.false_eq_true, if_false, Slot.required, decoded, Option.bind_eq_bind,
    Option.bind_some]

end Fields

/-! ## Values -/

section Values

variable {α β : Type} {deletion : Deletion} {encode : α → Json}

theorem mapM_mapIdx {items : List α} {decode : Json → Option β} {change : Nat → Json → Json}
    {complete : Nat → α → β}
    (decoded : ∀ index item, decode (change index (encode item)) = some (complete index item)) :
    ((items.map encode).mapIdx change).mapM decode = some (items.mapIdx complete) := by
  induction items generalizing change complete with
  | nil => rfl
  | cons item rest inductionHypothesis =>
      rw [List.map_cons, List.mapIdx_cons, List.mapIdx_cons, List.mapM_cons, decoded,
        inductionHypothesis fun index => decoded (index + 1)]
      rfl

/-- A list is read back item by item. -/
theorem list?_prune {decode : Json → Option β} {complete : Nat → α → β}
    (decoded : ∀ index item,
      decode ((encode item).prune (deletion.below (.item index))) = some (complete index item))
    (items : List α) :
    list? decode ((list encode items).prune deletion) = some (items.mapIdx complete) := by
  unfold list
  rw [prune_array]
  exact mapM_mapIdx decoded

/-- A list of values without fields is read back as it is. -/
theorem list?_prune_of_unchanged {decode : Json → Option α}
    (decoded : ∀ inside item, decode ((encode item).prune inside) = some item) (items : List α) :
    list? decode ((list encode items).prune deletion) = some items := by
  rw [list?_prune (fun index item => decoded (deletion.below (.item index)) item)]
  exact congrArg some (mapIdx_eq_self fun _ _ _ => rfl)

/-- A value that may be missing is read back, unless it is written like a missing one. -/
theorem option?_prune {decode : Json → Option α}
    (decoded : ∀ item, decode ((encode item).prune deletion) = some item)
    (present : ∀ item, (encode item).prune deletion ≠ .null) (value : Option α) :
    option? decode ((option encode value).prune deletion) = some value := by
  cases value with
  | none => rfl
  | some item =>
      unfold option option?
      split
      · rename_i isNull
        exact absurd isNull (present item)
      · rw [decoded]
        rfl

theorem text?_prune (deletion : Deletion) (text : String) :
    text? ((Json.string text).prune deletion) = some text := rfl

theorem bool?_prune (deletion : Deletion) (value : Bool) :
    bool? ((Json.bool value).prune deletion) = some value := rfl

theorem prune_integer (deletion : Deletion) (n : Int) :
    (Json.integer n).prune deletion = .integer n := rfl

theorem int64?_prune (deletion : Deletion) (n : Int64) :
    int64? ((int64 n).prune deletion) = some n := by
  rw [int64, prune_integer]
  exact int64?_int64 n

theorem uint64?_prune (deletion : Deletion) (n : UInt64) :
    uint64? ((uint64 n).prune deletion) = some n := by
  rw [uint64, prune_integer]
  exact uint64?_uint64 n

theorem uint32?_prune (deletion : Deletion) (n : UInt32) :
    uint32? ((Json.integer n.toNat).prune deletion) = some n := by
  rw [prune_integer]
  unfold uint32? integer?
  rw [Option.bind_some, Text.Numeral.uint32?_toNat]

theorem uint16?_prune (deletion : Deletion) (n : UInt16) :
    uint16? ((Json.integer n.toNat).prune deletion) = some n := by
  rw [prune_integer]
  unfold uint16? integer?
  rw [Option.bind_some, Text.Numeral.uint16?_toNat]

theorem optionText?_prune (deletion : Deletion) (text : Option String) :
    option? text? ((option .string text).prune deletion) = some text :=
  option?_prune (text?_prune deletion) (fun _ isNull => by cases isNull) text

theorem optionUInt64?_prune (deletion : Deletion) (n : Option UInt64) :
    option? uint64? ((option uint64 n).prune deletion) = some n :=
  option?_prune (uint64?_prune deletion) (fun _ isNull => by cases isNull) n

end Values

end Json
end Gallery
