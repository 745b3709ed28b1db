import Gallery.Json.Record
import Gallery.Proofs.Text.Decimal

namespace Gallery
namespace Json

/-!
# Records are read by their fields

A record with distinct keys is read as what its members say of the fields that are asked
for, in whatever order the keys stand.  So a record that was written is read back as soon
as its fields are, and lists and numbers are.
-/

-- These are rewritten with and not unfolded, so that no decoder is evaluated.
namespace Slot

variable {α : Type} (decode : Json → Option α) (value : Json)

@[simp]
theorem required_given : (given value).required decode = decode value := by
  rw [required]

@[simp]
theorem withDefault_given (default : α) :
    (given value).withDefault default decode = decode value := by
  rw [withDefault]

@[simp]
theorem optional_given : (given value).optional decode = option? decode value := by
  rw [optional]

@[simp]
theorem optional_omitted : omitted.optional decode = some none := by
  rw [optional]

end Slot

namespace Record

variable {fields : List (String × Json)} {name : String}

theorem readable_record (fields : List (String × Json)) :
    readable (fields.map fun field => (some field.1, field.2)) = some fields := by
  unfold readable
  induction fields with
  | nil => rfl
  | cons field rest inductionHypothesis => simp_all

theorem distinct_of_nodup (names : List String) {keys : List String} (unique : keys.Nodup) :
    distinct names keys = true :=
  List.all_eq_true.mpr fun _ _ => decide_eq_true (List.nodup_iff_count.mp unique _)

/-- The record that is read of some fields. -/
def ofFields (names : List String) (fields : List (String × Json)) : Record where
  slots := names.map fun name => (name, named fields name)

/-- A record with distinct keys is read. -/
theorem ofJson?_record (names : List String) (unique : (fields.map Prod.fst).Nodup) :
    ofJson? names (record fields) = some (ofFields names fields) := by
  unfold ofJson? record
  simp only
  rw [readable_record, Option.bind_some, if_pos (distinct_of_nodup names unique)]
  rfl

/-- What is read of a field is what the members say of it. -/
@[simp]
theorem field_ofFields {names : List String} (isAsked : name ∈ names) :
    (ofFields names fields).field name = named fields name := by
  have found : (names.map fun name => (name, named fields name)).lookup name =
      some (named fields name) := by
    induction names with
    | nil => cases isAsked
    | cons first rest inductionHypothesis =>
        rw [List.map_cons, List.lookup_cons]
        by_cases same : name = first
        · simp [same]
        · have inRest := (List.mem_cons.mp isAsked).resolve_left same
          simp [beq_eq_false_iff_ne.mpr same, inductionHypothesis inRest]
  unfold ofFields field
  rw [found, Option.getD_some]

@[simp]
theorem named_nil (name : String) : named [] name = .omitted := rfl

@[simp]
theorem named_cons (key : String) (value : Json) (rest : List (String × Json)) :
    named ((key, value) :: rest) name = if name = key then .given value else named rest name := by
  unfold named
  rw [List.lookup_cons]
  by_cases same : name = key
  · simp [same]
  · simp [same, beq_eq_false_iff_ne.mpr same]

theorem named_of_not_mem (unknown : name ∉ fields.map Prod.fst) : named fields name = .omitted := by
  have absent : fields.lookup name = none := by
    apply List.lookup_eq_none_iff.mpr
    intro field member
    apply bne_iff_ne.mpr
    rintro rfl
    exact unknown (List.mem_map_of_mem member)
  unfold named
  rw [absent]

theorem named_of_mem (unique : (fields.map Prod.fst).Nodup) {field : String × Json}
    (member : field ∈ fields) : named fields field.1 = .given field.2 := by
  obtain ⟨before, after, rfl⟩ := List.append_of_mem member
  have present : (before ++ field :: after).lookup field.1 = some field.2 := by
    refine List.lookup_eq_some_iff.mpr ⟨before, after, rfl, ?_⟩
    intro other inBefore
    apply bne_iff_ne.mpr
    rw [List.map_append, List.nodup_append] at unique
    exact (unique.2.2 _ (List.mem_map_of_mem inBefore) _ List.mem_cons_self).symm
  unfold named
  rw [present]

end Record

/-! ## Values that are read back -/

section Values

variable {α : Type} {encode : α → Json} {decode : Json → Option α}

/-- A list is read back if its items are. -/
theorem list?_list (decoded : ∀ item, decode (encode item) = some item) (items : List α) :
    list? decode (list encode items) = some items := by
  change (items.map encode).mapM decode = some items
  induction items with
  | nil => rfl
  | cons item items inductionHypothesis =>
      rw [List.map_cons, List.mapM_cons, decoded, inductionHypothesis]
      rfl

@[simp]
theorem text?_string (text : String) : text? (.string text) = some text := rfl

@[simp]
theorem bool?_bool (value : Bool) : bool? (.bool value) = some value := rfl

@[simp]
theorem int64?_int64 (n : Int64) : int64? (int64 n) = some n := by
  unfold int64? int64 integer?
  rw [Option.bind_some, Text.Numeral.int64?_toInt]

@[simp]
theorem uint64?_uint64 (n : UInt64) : uint64? (uint64 n) = some n := by
  unfold uint64? uint64 integer?
  rw [Option.bind_some, Text.Numeral.uint64?_toNat]

@[simp]
theorem option?_string (text : Option String) :
    option? text? (option .string text) = some text := by
  cases text with
  | none => rfl
  | some text => rfl

end Values

end Json
end Gallery
