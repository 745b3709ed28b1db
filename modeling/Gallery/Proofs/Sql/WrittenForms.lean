import Gallery.Proofs.Sql.Placeholders

namespace Gallery
namespace Sql

/-!
# Written forms

For SQLite all placeholders look the same, so a part of a statement can be written without
knowing where it stands: as a text with placeholders, and the values for them.  Written
parts are put together like texts, and what fragments are rendered to is put together from
what each of them is written as.

Texts are merged as far as they meet and parentheses are moved to the right, so two ways to
put the same text together end in one form.
-/

/-- A text for SQLite, and the values for its placeholders in their order. -/
@[ext]
structure Written where
  sql : String
  binds : List Bind

namespace Written

/-- A text without placeholders. -/
def text (sql : String) : Written :=
  ⟨sql, []⟩

/-- Nothing. -/
def empty : Written :=
  text ""

/-- A placeholder with the value that is bound to it. -/
def value (bind : Bind) : Written :=
  ⟨"?", [bind]⟩

instance : Append Written :=
  ⟨fun first second => ⟨first.sql ++ second.sql, first.binds ++ second.binds⟩⟩

@[simp] theorem append_assoc (first second third : Written) :
    first ++ second ++ third = first ++ (second ++ third) := by
  ext1
  · exact String.append_assoc
  · exact List.append_assoc _ _ _

@[simp] theorem append_empty (written : Written) : written ++ empty = written := by
  ext1
  · exact String.append_empty
  · exact List.append_nil _

@[simp] theorem text_append_text (first second : String) :
    text first ++ text second = text (first ++ second) :=
  rfl

@[simp] theorem text_append_text_append (first second : String) (rest : Written) :
    text first ++ (text second ++ rest) = text (first ++ second) ++ rest :=
  (append_assoc _ _ _).symm

/-- Written parts with a text between them. -/
def separated (separator : String) : List Written → Written
  | [] => empty
  | [part] => part
  | part :: next :: parts => part ++ text separator ++ separated separator (next :: parts)

/-- It does not matter where parts begin to be put together. -/
theorem separated_append (separator : String) (first second : Written) (rest : List Written) :
    separated separator ((first ++ text separator ++ second) :: rest) =
      first ++ text separator ++ separated separator (second :: rest) := by
  cases rest with
  | nil => rfl
  | cons third rest => simp only [separated, append_assoc]

theorem separated_append_separated {separator : String} {first second : List Written}
    (some_first : first ≠ []) (some_second : second ≠ []) :
    separated separator (first ++ second) =
      separated separator first ++ text separator ++ separated separator second := by
  induction first with
  | nil => exact absurd rfl some_first
  | cons part rest inductionHypothesis =>
      cases rest with
      | nil =>
          cases second with
          | nil => exact absurd rfl some_second
          | cons next later => rfl
      | cons next later =>
          have inner := inductionHypothesis (List.cons_ne_nil _ _)
          simp only [List.cons_append, separated, append_assoc] at inner ⊢
          rw [inner]

end Written

/-- Fragments as they are written for SQLite. -/
def written (fragments : List Fragment) : Written where
  sql := String.join (fragments.map (Fragment.spell .sqlite 1))
  binds := fragments.filterMap Fragment.bind?

theorem written_append (first second : List Fragment) :
    written (first ++ second) = written first ++ written second := by
  ext1
  · exact (congrArg String.join List.map_append).trans (String.join_append ..)
  · exact List.filterMap_append

/-- All placeholders of SQLite look the same. -/
theorem render_sqlite (fragments : List Fragment) :
    render .sqlite fragments = ⟨.sqlite, (written fragments).sql, (written fragments).binds⟩ := by
  have spelled : ∀ number, Fragment.spellFrom .sqlite number fragments =
      fragments.map (Fragment.spell .sqlite 1) := by
    induction fragments with
    | nil => exact fun _ => rfl
    | cons fragment rest inductionHypothesis =>
        intro number
        rw [Fragment.spellFrom, inductionHypothesis]
        cases fragment <;> rfl
  rw [render, spelled]
  rfl

section Fragments

variable (rest : List Fragment)

@[simp] theorem written_nil : written [] = .empty :=
  rfl

@[simp] theorem written_cons_raw (sql : String) :
    written (.raw sql :: rest) = .text sql ++ written rest := by
  ext1
  · exact String.join_cons
  · rfl

@[simp] theorem written_cons_like : written (.like :: rest) = .text "LIKE" ++ written rest := by
  ext1
  · exact String.join_cons
  · rfl

@[simp] theorem written_cons_bind (bind : Bind) :
    written (.bind bind :: rest) = .value bind ++ written rest := by
  ext1
  · exact String.join_cons
  · rfl

end Fragments

theorem written_intercalate (separator : String) (parts : List (List Fragment)) :
    written (List.intercalate [.raw separator] parts) =
      .separated separator (parts.map written) := by
  induction parts with
  | nil => rfl
  | cons part others inductionHypothesis =>
      cases others with
      | nil =>
          simp only [List.intercalate_singleton, List.map_cons, List.map_nil, Written.separated]
      | cons next rest =>
          rw [List.intercalate_cons_cons, written_append, written_append,
            inductionHypothesis, written_cons_raw, written_nil, Written.append_empty]
          rfl

end Sql
end Gallery
