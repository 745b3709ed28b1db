import Gallery.Sql.Statement

namespace Gallery
namespace Sql

/-!
# Placeholders

Rendering writes a placeholder wherever a fragment holds a value, and collects the
values on the side.  So the text of a statement is made of pieces that no value has
touched, with the placeholders between them, numbered from one; and there is one
value for each of them.  Statements whose fragments differ in values alone have the
same text.
-/

namespace Fragment

variable (dialect : Dialect)

theorem spellFrom_append (number : Nat) (first second : List Fragment) :
    spellFrom dialect number (first ++ second) =
      spellFrom dialect number first ++
        spellFrom dialect (number + (first.filterMap bind?).length) second := by
  induction first generalizing number with
  | nil => rfl
  | cons fragment others inductionHypothesis =>
      rw [List.cons_append, spellFrom, spellFrom, inductionHypothesis, List.filterMap_cons]
      cases fragment.bind? with
      | none => rfl
      | some value =>
          simp only [Option.isSome_some, if_true, List.length_cons, List.cons_append]
          rw [Nat.add_assoc, Nat.add_comm 1]

/-! ## Pieces of text -/

/-- The text of a fragment, if it is one. -/
def text? : Fragment → Option String
  | .raw sql => some sql
  | .bind _ => none
  | .like => some dialect.likeOperator
  | .tagList => some dialect.tagList

/-- The texts before the first value, between the values and behind the last one. -/
def segments : List Fragment → String × List String
  | [] => ("", [])
  | fragment :: rest =>
      match fragment.text? dialect with
      | some text => (text ++ (segments rest).1, (segments rest).2)
      | none => ("", (segments rest).1 :: (segments rest).2)

/-- Texts with a placeholder in front of each but the first. -/
def interleave (placeholders : List String) (texts : String × List String) : String :=
  texts.1 ++ String.join (List.zipWith (· ++ ·) placeholders texts.2)

theorem length_segments (fragments : List Fragment) :
    (segments dialect fragments).2.length = (fragments.filterMap bind?).length := by
  induction fragments with
  | nil => rfl
  | cons fragment rest inductionHypothesis =>
      cases fragment with
      | bind value => exact congrArg Nat.succ inductionHypothesis
      | raw sql => exact inductionHypothesis
      | like => exact inductionHypothesis
      | tagList => exact inductionHypothesis

/-- A text in front of all texts stands in front of what they make. -/
theorem append_interleave (text : String) (placeholders : List String)
    (texts : String × List String) :
    text ++ interleave placeholders texts = interleave placeholders (text ++ texts.1, texts.2) := by
  rw [interleave, interleave, String.append_assoc]

theorem join_spellFrom (number : Nat) (fragments : List Fragment) :
    String.join (spellFrom dialect number fragments) =
      interleave ((List.range' number (fragments.filterMap bind?).length).map dialect.placeholder)
        (segments dialect fragments) := by
  induction fragments generalizing number with
  | nil => rfl
  | cons fragment rest inductionHypothesis =>
      rw [spellFrom, String.join_cons, inductionHypothesis]
      cases fragment with
      | bind value =>
          have values : (Fragment.bind value :: rest).filterMap bind? =
              value :: rest.filterMap bind? := rfl
          have texts : segments dialect (.bind value :: rest) =
              ("", (segments dialect rest).1 :: (segments dialect rest).2) := rfl
          have next : (if (Fragment.bind value).bind?.isSome then number + 1 else number) =
              number + 1 := rfl
          rw [values, texts, next, List.length_cons, List.range'_succ, List.map_cons, interleave,
            interleave, List.zipWith_cons_cons, String.join_cons, String.empty_append,
            String.append_assoc]
          rfl
      | raw sql => exact append_interleave sql _ _
      | like => exact append_interleave dialect.likeOperator _ _
      | tagList => exact append_interleave dialect.tagList _ _

/-! ## Statements that differ in values -/

/-- A fragment whose value has been forgotten. -/
def blank : Fragment → Fragment
  | .bind _ => .bind (.int 0)
  | fragment => fragment

theorem spellFrom_map_blank (number : Nat) (fragments : List Fragment) :
    spellFrom dialect number (fragments.map blank) = spellFrom dialect number fragments := by
  induction fragments generalizing number with
  | nil => rfl
  | cons fragment rest inductionHypothesis =>
      rw [List.map_cons, spellFrom, spellFrom, inductionHypothesis]
      cases fragment <;> rfl

theorem length_binds_map_blank (fragments : List Fragment) :
    ((fragments.map blank).filterMap bind?).length = (fragments.filterMap bind?).length := by
  induction fragments with
  | nil => rfl
  | cons fragment rest inductionHypothesis =>
      cases fragment with
      | bind value => exact congrArg Nat.succ inductionHypothesis
      | raw sql => exact inductionHypothesis
      | like => exact inductionHypothesis
      | tagList => exact inductionHypothesis

end Fragment

open Fragment

/-- A statement is made of texts with numbered placeholders between them, one for each value. -/
theorem sql_render (dialect : Dialect) (fragments : List Fragment) :
    (render dialect fragments).sql =
      interleave ((List.range' 1 (render dialect fragments).binds.length).map dialect.placeholder)
        (segments dialect fragments) ∧
    (segments dialect fragments).2.length = (render dialect fragments).binds.length :=
  ⟨join_spellFrom dialect 1 fragments, length_segments dialect fragments⟩

/-- Fragments that are equal but for their values make the same text, with as many values. -/
theorem render_of_blank {first second : List Fragment}
    (same : first.map blank = second.map blank) (dialect : Dialect) :
    (render dialect first).sql = (render dialect second).sql ∧
      (render dialect first).binds.length = (render dialect second).binds.length := by
  constructor
  · rw [render, render, ← spellFrom_map_blank, same, spellFrom_map_blank]
  · rw [render, render, ← length_binds_map_blank, same, length_binds_map_blank]

theorem spellFrom_map_raw (dialect : Dialect) (number : Nat) (texts : List String) :
    spellFrom dialect number (texts.map .raw) = texts := by
  induction texts with
  | nil => rfl
  | cons text texts inductionHypothesis => exact congrArg (text :: ·) inductionHypothesis

theorem filterMap_bind?_map_raw (texts : List String) :
    (texts.map Fragment.raw).filterMap bind? = [] := by
  apply List.filterMap_eq_nil_iff.mpr
  intro fragment member
  rcases List.mem_map.mp member with ⟨text, _, rfl⟩
  rfl

/-- Where a text is cut makes no difference. -/
theorem render_append_raw (dialect : Dialect) (fragments : List Fragment) (texts : List String) :
    render dialect (fragments ++ texts.map .raw) =
      render dialect (fragments ++ [.raw (String.join texts)]) := by
  have whole : [Fragment.raw (String.join texts)] = [String.join texts].map .raw := rfl
  rw [render, render, whole]
  simp only [spellFrom_append, spellFrom_map_raw, List.filterMap_append, filterMap_bind?_map_raw,
    String.join_append, String.join_cons, String.join_nil, String.append_empty]

end Sql
end Gallery
