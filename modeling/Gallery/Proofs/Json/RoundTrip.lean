import Gallery.Proofs.Json.Reading

namespace Gallery
namespace Json

/-!
# What is printed is read back

Both printed forms of a value are layouts of its tokens, so both are texts of the value
and are read as it.  Only a real number has to be one that could have been read, since it
is kept as it was spelled.
-/

/-- A value that could have been read: its real numbers are spelled as such. -/
inductive Proper : Json → Prop
  | null : Proper .null
  | bool (value : Bool) : Proper (.bool value)
  | integer (value : Int) : Proper (.integer value)
  | real {literal : String} (nonempty : literal.toList ≠ [])
      (spelled : ∀ c ∈ literal.toList, Token.isLiteralChar c = true)
      (isReal : Token.literal? literal.toList = some (.real literal)) : Proper (.real literal)
  | string (text : String) : Proper (.string text)
  | garbled : Proper .garbled
  | array {items : List Json} (each : ∀ item ∈ items, Proper item) : Proper (.array items)
  | object {members : List (Option String × Json)} (each : ∀ member ∈ members, Proper member.2) :
      Proper (.object members)

namespace Proper

theorem record {fields : List (String × Json)} (each : fields.Forall fun field => Proper field.2) :
    Proper (Json.record fields) := by
  apply Proper.object
  intro member isMember
  obtain ⟨field, isField, rfl⟩ := List.mem_map.mp isMember
  exact List.forall_iff_forall_mem.mp each field isField

theorem list {α : Type} {encode : α → Json} (each : ∀ item, Proper (encode item))
    (items : List α) : Proper (Json.list encode items) := by
  apply Proper.array
  intro item isItem
  obtain ⟨value, _, rfl⟩ := List.mem_map.mp isItem
  exact each value

theorem option {α : Type} {encode : α → Json} (each : ∀ item, Proper (encode item))
    (value : Option α) : Proper (Json.option encode value) := by
  cases value with
  | none => exact .null
  | some item => exact each item

end Proper

namespace Token

/-! ## The parts of a printed value -/

section Parts

variable {text : List Char} {tokens : List Token} {token : Token}

theorem Layout.single {written : List Char} (writes : Writes token written) :
    Layout [token] written := by
  have layout := Layout.token writes .nil
  rwa [List.append_nil] at layout

theorem Layout.punctuation {c : Char} (writes : Writes token [c]) (layout : Layout tokens text) :
    Layout (token :: tokens) (c :: text) :=
  .token writes layout

theorem Layout.newLine (depth : Nat) (layout : Layout tokens text) :
    Layout tokens (newLine depth ++ text) := by
  apply Layout.blank rfl
  induction 2 * depth with
  | zero => exact layout
  | succ width inductionHypothesis =>
      rw [List.replicate_succ]
      exact .blank rfl inductionHypothesis

theorem writes_key (key : Option String) : Writes (.string key) (spellKey key) := by
  cases key with
  | none =>
      have digit : Quoted.hexValue? 'd' = some 13 ∧ Quoted.hexValue? '8' = some 8 ∧
          Quoted.hexValue? '0' = some 0 := ⟨rfl, rfl, rfl⟩
      have spelled := (((Quoted.Hexadecimal.nil.concat digit.1).concat digit.2.1).concat
        digit.2.2).concat digit.2.2
      exact writes_string (.hexadecimal rfl spelled .nil)
  | some key =>
      have writes := Writes.string (Quoted.encodes_toNat key.toList)
        (Quoted.writes_escapes key.toList)
      rwa [String.ofList_toList] at writes

/-- A key stands before its value, with a colon between them. -/
theorem Layout.member (key : Option String) (layout : Layout tokens text) :
    Layout (.string key :: .colon :: tokens) (spellKey key ++ ':' :: text) :=
  .token (writes_key key) (layout.punctuation .colon)

end Parts

/-! ## The pretty form -/

section Pretty

variable {depth : Nat}

theorem layout_prettyItems {items : List Json}
    (each : ∀ item ∈ items, Layout item.tokens (prettyAt depth item)) :
    Layout (moreItems items) (prettyItems depth items) := by
  induction items with
  | nil => exact .nil
  | cons item rest inductionHypothesis =>
      obtain ⟨layout, others⟩ := List.forall_mem_cons.mp each
      simp only [prettyItems, moreItems]
      exact ((layout.newLine depth).append (inductionHypothesis others)).punctuation .comma

theorem layout_prettyMembers {members : List (Option String × Json)}
    (each : ∀ member ∈ members, Layout member.2.tokens (prettyAt depth member.2)) :
    Layout (moreMembers members) (prettyMembers depth members) := by
  induction members with
  | nil => exact .nil
  | cons member rest inductionHypothesis =>
      obtain ⟨layout, others⟩ := List.forall_mem_cons.mp each
      simp only [prettyMembers, moreMembers, List.append_assoc, List.cons_append, List.nil_append]
      have values := (layout.append (inductionHypothesis others)).blank (c := ' ') rfl
      have first := values.member member.1
      exact (first.newLine depth).punctuation .comma

/-- The pretty form of a value is a layout of its tokens. -/
theorem layout_pretty {value : Json} (proper : Proper value) (depth : Nat) :
    Layout value.tokens (prettyAt depth value) := by
  induction proper generalizing depth with
  | null => exact .single (.literal .null)
  | bool value =>
      cases value with
      | true => exact .single (.literal .isTrue)
      | false => exact .single (.literal .isFalse)
  | integer value => exact .single (.literal (.number (writesNumber_decimal value)))
  | real _ _ isReal => exact .single (.literal (literal?_eq_some_iff.mp isReal))
  | string text => exact .single (writes_key (some text))
  | garbled => exact .single (writes_key none)
  | @array items each inductionHypothesis =>
      cases items with
      | nil => exact (Layout.single .closeArray).punctuation .openArray
      | cons item rest =>
          obtain ⟨layout, others⟩ := List.forall_mem_cons.mp inductionHypothesis
          simp only [prettyAt, tokens, List.append_assoc]
          have closing := (Layout.single .closeArray).newLine depth
          have rest := layout_prettyItems fun other isIn => others other isIn (depth + 1)
          have items := (layout (depth + 1)).append (rest.append closing)
          exact (items.newLine (depth + 1)).punctuation .openArray
  | @object members each inductionHypothesis =>
      cases members with
      | nil => exact (Layout.single .closeObject).punctuation .openObject
      | cons member rest =>
          obtain ⟨layout, others⟩ := List.forall_mem_cons.mp inductionHypothesis
          simp only [prettyAt, tokens, List.append_assoc, List.cons_append, List.nil_append]
          have closing := (Layout.single .closeObject).newLine depth
          have rest := layout_prettyMembers fun other isIn => others other isIn (depth + 1)
          have values := ((layout (depth + 1)).append (rest.append closing)).blank (c := ' ') rfl
          exact ((values.member member.1).newLine (depth + 1)).punctuation .openObject

end Pretty
end Token

/-- A proper value is read back from its pretty text. -/
theorem read?_toPretty {value : Json} (proper : Proper value) :
    read? value.toPretty.toList = some value := by
  rw [read?_eq_some_iff, toPretty, String.toList_ofList]
  exact Token.layout_pretty proper 0

end Json
end Gallery
