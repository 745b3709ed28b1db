import Gallery.Proofs.Json.RoundTrip

namespace Gallery
namespace Json

/-!
# The compact form is read back

The compact form has the tokens of a value with no blanks at all.  It is a layout like the
pretty form, so it is read as the same value.
-/

namespace Token

theorem layout_compactItems {item : Json} {rest : List Json}
    (each : ∀ other ∈ item :: rest, Layout other.tokens (compact other)) :
    Layout (item.tokens ++ moreItems rest) (compactItems (item :: rest)) := by
  induction rest generalizing item with
  | nil =>
      rw [moreItems, List.append_nil]
      exact each item List.mem_cons_self
  | cons next rest inductionHypothesis =>
      obtain ⟨layout, others⟩ := List.forall_mem_cons.mp each
      exact layout.append ((inductionHypothesis others).punctuation .comma)

theorem layout_compactMembers {member : Option String × Json} {rest : List (Option String × Json)}
    (each : ∀ other ∈ member :: rest, Layout other.2.tokens (compact other.2)) :
    Layout (.string member.1 :: .colon :: (member.2.tokens ++ moreMembers rest))
      (compactMembers (member :: rest)) := by
  induction rest generalizing member with
  | nil =>
      rw [moreMembers, List.append_nil]
      exact (each member List.mem_cons_self).member member.1
  | cons next rest inductionHypothesis =>
      obtain ⟨layout, others⟩ := List.forall_mem_cons.mp each
      have further := (inductionHypothesis others).punctuation .comma
      exact (layout.append further).member member.1

/-- The compact form of a value is a layout of its tokens. -/
theorem layout_compact {value : Json} (proper : Proper value) :
    Layout value.tokens (compact value) := by
  induction proper with
  -- A value without parts has one form.
  | null => exact layout_pretty .null 0
  | bool value =>
      cases value with
      | true => exact layout_pretty (.bool true) 0
      | false => exact layout_pretty (.bool false) 0
  | integer value => exact layout_pretty (.integer value) 0
  | real nonempty spelled isReal => exact layout_pretty (.real nonempty spelled isReal) 0
  | string text => exact layout_pretty (.string text) 0
  | garbled => exact layout_pretty .garbled 0
  | @array items each inductionHypothesis =>
      cases items with
      | nil => exact (Layout.single .closeArray).punctuation .openArray
      | cons item rest =>
          have items := layout_compactItems inductionHypothesis
          exact (items.append (.single .closeArray)).punctuation .openArray
  | @object members each inductionHypothesis =>
      cases members with
      | nil => exact (Layout.single .closeObject).punctuation .openObject
      | cons member rest =>
          have members := layout_compactMembers inductionHypothesis
          exact (members.append (.single .closeObject)).punctuation .openObject

end Token

/-- The compact text of a proper value is a text of it. -/
theorem isText_toCompact {value : Json} (proper : Proper value) :
    value.IsText value.toCompact.toList := by
  rw [toCompact, String.toList_ofList]
  exact Token.layout_compact proper

/-- A proper value is read back from its compact text. -/
theorem read?_toCompact {value : Json} (proper : Proper value) :
    read? value.toCompact.toList = some value :=
  read?_eq_some_iff.mpr (isText_toCompact proper)

end Json
end Gallery
