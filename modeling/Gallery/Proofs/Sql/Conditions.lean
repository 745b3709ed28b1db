import Gallery.Proofs.Sql.LeftJoins
import Gallery.Proofs.Sql.WrittenForms
import Gallery.Proofs.Text.Order
import Gallery.Store.Meaning

namespace Gallery
namespace Sql

/-!
# Conditions on rows

What stands behind `WHERE` in a statement for SQLite is syntax here, with a written form
and a value in the rows that are in scope.  There are three values, since a comparison
with a missing value is neither true nor false.  Parentheses are a part of the syntax, so
the written form has no choices, and a condition is well grouped where SQL reads its
written form as it stands.

A row is kept where the condition is true.  So for `AND`, `OR` and subqueries it does not
matter that a condition can be something else than false, and the lemmas about what is
kept, one for each of them, are all that is needed of the three values.
-/

/-! ## Rows in scope -/

/-- The tables that conditions read. -/
inductive TableName where
  | archives
  | tags
  | links
  | sources
  | memberships
deriving DecidableEq

/-- The written name of a table. -/
@[simp] def TableName.sql : TableName → String
  | .archives => "archives"
  | .tags => "tags"
  | .links => "archive_tags"
  | .sources => "archive_sources"
  | .memberships => "series_archive"

/-- The columns that conditions and orders read. -/
inductive ColumnName where
  | id
  | pages
  | size
  | title
  | language
  | createdAt
  | releasedAt
  | deletedAt
  | archive
  | tag
  | scope
  | name
  | displayName
  | url
deriving DecidableEq

/-- The written name of a column. -/
@[simp] def ColumnName.sql : ColumnName → String
  | .id => "id"
  | .pages => "pages"
  | .size => "size"
  | .title => "title"
  | .language => "language"
  | .createdAt => "created_at"
  | .releasedAt => "released_at"
  | .deletedAt => "deleted_at"
  | .archive => "archive_id"
  | .tag => "tag_id"
  | .scope => "namespace"
  | .name => "name"
  | .displayName => "display_name"
  | .url => "url"

/-- A column of a table. -/
structure Cell where
  table : TableName
  column : ColumnName
deriving DecidableEq

/-- A cell as it is written. -/
@[simp] def Cell.sql (cell : Cell) : String :=
  cell.table.sql ++ "." ++ cell.column.sql

/-- The value of a text that may be missing. -/
def Value.ofText? : Option String → Value
  | some content => .text content
  | none => .null

/-- The values of a row. -/
abbrev Record := ColumnName → Value

/-- The values of an archive. -/
def archiveRecord (archive : Store.Archive) : Record
  | .id => .integer archive.id.toInt
  | .pages => .integer archive.pages.toInt
  | .size => .integer archive.size.toInt
  | .title => .text archive.title
  | .language => .ofText? archive.language
  | .createdAt => .text archive.createdAt
  | .releasedAt => .ofText? archive.releasedAt
  | .deletedAt => .ofText? archive.deletedAt
  | _ => .null

/-- The values of a tag. -/
def tagRecord (tag : Listing.Tag) : Record
  | .id => .integer tag.id.toInt
  | .scope => .text tag.scope
  | .name => .text tag.name
  | .displayName => .ofText? tag.displayName
  | _ => .null

/-- The values of a link. -/
def linkRecord (link : Store.Link) : Record
  | .archive => .integer link.archive.toInt
  | .tag => .integer link.tag.toInt
  | .createdAt => .text link.time
  | _ => .null

/-- The values of a source. -/
def sourceRecord (source : Store.Source) : Record
  | .id => .integer source.id
  | .archive => .integer source.archive.toInt
  | .name => .text source.name
  | .url => .ofText? source.url
  | _ => .null

/-- The values of a membership. -/
def membershipRecord (membership : Store.Membership) : Record
  | .archive => .integer membership.archive.toInt
  | _ => .null

/-- The rows of a table. -/
def TableName.records (store : Store) : TableName → List Record
  | .archives => store.archives.map archiveRecord
  | .tags => store.tags.map tagRecord
  | .links => store.links.map linkRecord
  | .sources => store.sources.map sourceRecord
  | .memberships => store.memberships.map membershipRecord

/-- The row of each table that a condition can speak of. -/
abbrev Scope := TableName → Record

namespace Scope

/-- The scope of a row of archives. -/
def ofArchive (archive : Store.Archive) : Scope
  | .archives => archiveRecord archive
  | _ => fun _ => .null

/-- The scope with a further row, which hides an earlier one of its table. -/
def add (scope : Scope) (table : TableName) (record : Record) : Scope :=
  fun other => if other = table then record else scope other

/-- The value of a cell. -/
def value (scope : Scope) (cell : Cell) : Value :=
  scope cell.table cell.column

end Scope

/-! ## Three values -/

/-- Whether something is true or false, or neither because a value is missing. -/
abbrev Truth := Option Bool

namespace Truth

/-- What `AND` makes of two sides: false where one of them is. -/
def both : Truth → Truth → Truth
  | some false, _ | _, some false => some false
  | some true, some true => some true
  | _, _ => none

/-- What `OR` makes of two sides: true where one of them is. -/
def either : Truth → Truth → Truth
  | some true, _ | _, some true => some true
  | some false, some false => some false
  | _, _ => none

/-- Whether something is true. -/
def isTrue (truth : Truth) : Bool :=
  truth = some true

@[simp] theorem isTrue_some (value : Bool) : isTrue (some value) = value := by
  cases value <;> rfl

@[simp] theorem isTrue_both (first second : Truth) :
    (both first second).isTrue = (first.isTrue && second.isTrue) := by
  rcases first with _ | _ | _ <;> rcases second with _ | _ | _ <;> rfl

@[simp] theorem isTrue_either (first second : Truth) :
    (either first second).isTrue = (first.isTrue || second.isTrue) := by
  rcases first with _ | _ | _ <;> rcases second with _ | _ | _ <;> rfl

end Truth

namespace Value

/-- The order of values: missing ones come before numbers, and numbers before texts. -/
def order : Value → Value → Ordering
  | .null, .null => .eq
  | .null, _ => .lt
  | _, .null => .gt
  | .integer a, .integer b => compare a b
  | .integer _, .text _ => .lt
  | .text _, .integer _ => .gt
  | .text a, .text b => Text.compareText a b

/-- Whether a value is missing. -/
def isMissing (value : Value) : Bool :=
  value = .null

theorem isMissing_ofText? (text : Option String) : (ofText? text).isMissing = text.isNone := by
  cases text <;> rfl

/-- What a comparison makes of two values. -/
def compared (comparison : Comparison) (a b : Value) : Truth :=
  if a.isMissing || b.isMissing then none
  else
    some (match comparison with
      | .greater => a.order b = .gt
      | .less => a.order b = .lt
      | .equal => a.order b = .eq
      | .atLeast => a.order b ≠ .lt
      | .atMost => a.order b ≠ .gt)

/-- What `LIKE` makes of a value.  A number is compared by its digits. -/
def matched (pattern : String) : Value → Truth
  | .null => none
  | .integer number => some (Text.like pattern (String.ofList (Json.decimal number)))
  | .text content => some (Text.like pattern content)

/-- What `IN` makes of a value and numbers. -/
def among (numbers : List Int64) : Value → Truth
  | .null => if numbers.isEmpty then some false else none
  | value => some (numbers.any fun number => value = .integer number.toInt)

theorem compared_integer (comparison : Comparison) (a b : Int) :
    compared comparison (.integer a) (.integer b) = some (comparison.holds a b) := by
  have order : order (.integer a) (.integer b) = compare a b := rfl
  cases comparison with
  | greater => simp [compared, isMissing, order, Comparison.holds, Int.compare_eq_gt]
  | less => simp [compared, isMissing, order, Comparison.holds, Int.compare_eq_lt]
  | equal => simp [compared, isMissing, order, Comparison.holds]
  | atLeast => simp [compared, isMissing, order, Comparison.holds, Int.compare_ne_lt]
  | atMost => simp [compared, isMissing, order, Comparison.holds, Int.compare_ne_gt]

theorem isTrue_compared_ids (a b : Int64) :
    (compared .equal (.integer a.toInt) (.integer b.toInt)).isTrue = decide (a = b) := by
  rw [compared_integer, Truth.isTrue_some, Comparison.holds]
  exact decide_eq_decide.mpr Int64.toInt_inj

/-- Texts are equal letter by letter. -/
theorem compared_equal_text (a b : String) :
    compared .equal (.text a) (.text b) = some (decide (a = b)) :=
  congrArg some (decide_eq_decide.mpr Text.compareText_eq_eq_iff)

end Value

/-! ## Conditions -/

/-- What a column is compared with. -/
inductive Operand where
  | column (cell : Cell)
  | bound (bind : Bind)

/-- The value that is bound to a placeholder. -/
def Bind.value : Bind → Value
  | .int number => .integer number.toInt
  | .text content => .text content

namespace Operand

@[simp] def written : Operand → Written
  | .column cell => .text cell.sql
  | .bound bind => .value bind

def value (scope : Scope) : Operand → Value
  | .column cell => scope.value cell
  | .bound bind => bind.value

end Operand

/-- The rows that a subquery tries: those of a table, each together with the rows of another one
that agree with it in a column. -/
structure Origin where
  table : TableName
  joined : Option (TableName × Cell × Cell) := none

namespace Origin

@[simp] def sql (origin : Origin) : String :=
  match origin.joined with
  | some (table, first, second) =>
      origin.table.sql ++ " INNER JOIN " ++ table.sql ++ " ON " ++ first.sql ++ " = " ++ second.sql
  | none => origin.table.sql

/-- The scopes in which a subquery tries its condition. -/
def scopes (origin : Origin) (store : Store) (scope : Scope) : List Scope :=
  let rows := (origin.table.records store).map (scope.add origin.table)
  match origin.joined with
  | some (table, first, second) =>
      rows.flatMap fun row =>
        ((table.records store).map (row.add table)).filter fun pair =>
          ((pair.value first).compared .equal (pair.value second)).isTrue
  | none => rows

end Origin

/-- A condition on the rows in scope. -/
inductive Test where
  /-- An equation of two numbers that is true, or one that is false. -/
  | constant (value : Bool)
  | compare (cell : Cell) (comparison : Comparison) (operand : Operand)
  | like (cell : Cell) (pattern : String)
  | isNull (cell : Cell)
  /-- The number in a cell is in a list, or it is not. -/
  | among (cell : Cell) (negated : Bool) (numbers : List Int64)
  /-- The number in a cell is that of an index row that satisfies an expression, or it is not. -/
  | indexed (cell : Cell) (negated : Bool) (expression : String)
  | and (first second : Test)
  | or (first second : Test)
  | grouped (inner : Test)
  | exists (origin : Origin) (condition : Test)

namespace Test

/-- A condition as it is written. -/
@[simp] def written : Test → Written
  | .constant value => .text (if value then "1 = 1" else "1 = 0")
  | .compare cell comparison operand =>
      .text (cell.sql ++ " " ++ comparison.symbol ++ " ") ++ operand.written
  | .like cell pattern => .text (cell.sql ++ " LIKE ") ++ .value (.text pattern)
  | .isNull cell => .text (cell.sql ++ " IS NULL")
  | .among cell negated numbers =>
      .text (cell.sql ++ (if negated then " NOT IN " else " IN ")) ++ Sql.written [idList numbers]
  | .indexed cell negated expression =>
      .text (cell.sql ++ (if negated then " NOT IN " else " IN ") ++
        "(SELECT rowid FROM archives_fts WHERE archives_fts MATCH ") ++
          .value (.text expression) ++ .text ")"
  | .and first second => first.written ++ .text " AND " ++ second.written
  | .or first second => first.written ++ .text " OR " ++ second.written
  | .grouped inner => .text "(" ++ inner.written ++ .text ")"
  | .exists origin condition =>
      .text ("EXISTS (SELECT 1 FROM " ++ origin.sql ++ " WHERE ") ++ condition.written ++ .text ")"

/-- Whether a condition is true in a scope, or false, or neither. -/
def truth (store : Store) (scope : Scope) : Test → Truth
  | .constant value => some value
  | .compare cell comparison operand =>
      (scope.value cell).compared comparison (operand.value scope)
  | .like cell pattern => (scope.value cell).matched pattern
  | .isNull cell => some (scope.value cell).isMissing
  | .among cell negated numbers => ((scope.value cell).among numbers).map (negated ^^ ·)
  | .indexed cell negated expression =>
      let found := store.index.filter fun row => row.satisfies expression
      ((scope.value cell).among (found.map Store.IndexRow.id)).map (negated ^^ ·)
  | .and first second => (first.truth store scope).both (second.truth store scope)
  | .or first second => (first.truth store scope).either (second.truth store scope)
  | .grouped inner => inner.truth store scope
  | .exists origin condition =>
      some ((origin.scopes store scope).any fun inner => (condition.truth store inner).isTrue)

/-- How strongly the parts of a condition are bound together: by `OR`, by `AND`, or by more. -/
def strength : Test → Nat
  | .or _ _ => 0
  | .and _ _ => 1
  | _ => 2

/-- Whether a condition is read as it stands: `AND` binds stronger than `OR`, and of equal ones the
left one comes first. -/
def WellGrouped : Test → Prop
  | .and first second =>
      (1 ≤ first.strength ∧ 2 ≤ second.strength) ∧ first.WellGrouped ∧ second.WellGrouped
  | .or first second => 1 ≤ second.strength ∧ first.WellGrouped ∧ second.WellGrouped
  | .grouped inner => inner.WellGrouped
  | .exists _ condition => condition.WellGrouped
  | .constant _ | .compare _ _ _ | .like _ _ | .isNull _ | .among _ _ _ | .indexed _ _ _ => True

/-! ## Rows that are kept -/

/-- Whether a row is kept. -/
def keeps (test : Test) (store : Store) (scope : Scope) : Bool :=
  (test.truth store scope).isTrue

section Kept

variable (store : Store) (scope : Scope)

theorem keeps_isNull (cell : Cell) :
    (isNull cell).keeps store scope = (scope.value cell).isMissing :=
  Truth.isTrue_some _

theorem keeps_and (first second : Test) :
    (first.and second).keeps store scope =
      (first.keeps store scope && second.keeps store scope) :=
  Truth.isTrue_both _ _

theorem keeps_or (first second : Test) :
    (first.or second).keeps store scope =
      (first.keeps store scope || second.keeps store scope) :=
  Truth.isTrue_either _ _

theorem keeps_grouped (inner : Test) :
    inner.grouped.keeps store scope = inner.keeps store scope :=
  rfl

theorem keeps_exists (origin : Origin) (condition : Test) :
    (Test.exists origin condition).keeps store scope =
      (origin.scopes store scope).any (condition.keeps store) :=
  Truth.isTrue_some _

/-- The rows that a subquery without a join tries. -/
theorem keeps_exists_single (table : TableName) (condition : Test) :
    (Test.exists ⟨table, none⟩ condition).keeps store scope =
      (table.records store).any fun record => condition.keeps store (scope.add table record) := by
  rw [keeps_exists]
  exact List.any_map

/-- The rows of two tables that a subquery tries, if the second one hangs on the first. -/
theorem keeps_exists_joined {table joined : TableName} {first second : Cell} (condition : Test) :
    (Test.exists ⟨table, some (joined, first, second)⟩ condition).keeps store scope =
      (table.records store).any fun outer => (joined.records store).any fun inner =>
        let pair := (scope.add table outer).add joined inner
        ((pair.value first).compared .equal (pair.value second)).isTrue &&
          condition.keeps store pair := by
  rw [keeps_exists, Origin.scopes, List.any_flatMap, List.any_map]
  congr 1
  funext outer
  rw [Function.comp_apply, List.any_filter, List.any_map]
  rfl

/-- A text is kept where the pattern matches it, and a missing one never. -/
theorem keeps_like {cell : Cell} {text : Option String} (pattern : String)
    (own : scope.value cell = .ofText? text) :
    (like cell pattern).keeps store scope = Store.likeOption pattern text := by
  rw [keeps, truth, own]
  cases text with
  | none => rfl
  | some content => exact Truth.isTrue_some _

theorem keeps_like_text {cell : Cell} {content : String} (pattern : String)
    (own : scope.value cell = .text content) :
    (like cell pattern).keeps store scope = Text.like pattern content := by
  rw [keeps, truth, own]
  exact Truth.isTrue_some _

theorem keeps_compare {cell : Cell} {operand : Operand} {a b : Int} (comparison : Comparison)
    (own : scope.value cell = .integer a) (other : operand.value scope = .integer b) :
    (compare cell comparison operand).keeps store scope = comparison.holds a b := by
  rw [keeps, truth, own, other, Value.compared_integer]
  exact Truth.isTrue_some _

theorem keeps_equal_ids {cell : Cell} {operand : Operand} {a b : Int64}
    (own : scope.value cell = .integer a.toInt) (other : operand.value scope = .integer b.toInt) :
    (compare cell .equal operand).keeps store scope = decide (a = b) := by
  rw [keeps, truth, own, other]
  exact Value.isTrue_compared_ids a b

theorem keeps_equal_text {cell : Cell} {content : String} (bound : String)
    (own : scope.value cell = .text content) :
    (compare cell .equal (.bound (.text bound))).keeps store scope = decide (content = bound) := by
  have other : (Operand.bound (.text bound)).value scope = .text bound := rfl
  rw [keeps, truth, own, other, Value.compared_equal_text]
  exact Truth.isTrue_some _

theorem keeps_among {cell : Cell} {number : Int64} (negated : Bool) (numbers : List Int64)
    (own : scope.value cell = .integer number.toInt) :
    (among cell negated numbers).keeps store scope = (negated ^^ numbers.contains number) := by
  have found : Value.among numbers (.integer number.toInt) = some (numbers.contains number) := by
    have equal : ∀ other : Int64, decide (Value.integer number.toInt = .integer other.toInt) =
        (number == other) := by
      intro other
      rw [Bool.eq_iff_iff, decide_eq_true_eq, Value.integer.injEq, Int64.toInt_inj, beq_iff_eq]
    rw [List.contains_eq_any_beq, ← funext equal]
    rfl
  rw [keeps, truth, own, found]
  exact Truth.isTrue_some _

theorem keeps_indexed {cell : Cell} {archive : Int64} (negated : Bool) (expression : String)
    (own : scope.value cell = .integer archive.toInt) :
    (indexed cell negated expression).keeps store scope =
      (negated ^^ store.indexed archive expression) := by
  have listed : (indexed cell negated expression).keeps store scope =
      (among cell negated ((store.index.filter fun row => row.satisfies expression).map
        Store.IndexRow.id)).keeps store scope := rfl
  have found : ((store.index.filter fun row => row.satisfies expression).map
      Store.IndexRow.id).contains archive = store.indexed archive expression := by
    rw [Bool.eq_iff_iff, List.contains_iff_mem, Store.indexed, List.any_eq_true]
    simp only [List.mem_map, List.mem_filter, Bool.and_eq_true, decide_eq_true_eq]
    refine exists_congr fun row => ?_
    rw [and_assoc, and_comm (a := row.id = archive)]
  rw [listed, keeps_among store scope negated _ own, found]

end Kept

/-! ## Many conditions -/

/-- Conditions that all have to be true, if there are any. -/
def allOf? : List Test → Option Test
  | [] => none
  | first :: rest => some (rest.foldl .and first)

/-- Alternatives in parentheses, if there are any. -/
def anyOf? : List Test → Option Test
  | [] => none
  | first :: rest => some (.grouped (rest.foldl .or first))

theorem written_foldl {join : Test → Test → Test} {separator : String}
    (joined : ∀ first second, (join first second).written =
      first.written ++ .text separator ++ second.written) (first : Test) (rest : List Test) :
    (rest.foldl join first).written =
      .separated separator ((first :: rest).map Test.written) := by
  induction rest generalizing first with
  | nil => rfl
  | cons second rest inductionHypothesis =>
      rw [List.foldl_cons, inductionHypothesis, List.map_cons, joined, Written.separated_append]
      rfl

theorem keeps_foldl_and (store : Store) (scope : Scope) (first : Test) (rest : List Test) :
    (rest.foldl and first).keeps store scope =
      (first :: rest).all fun test => test.keeps store scope := by
  induction rest generalizing first with
  | nil => exact (Bool.and_true _).symm
  | cons second rest inductionHypothesis =>
      rw [List.foldl_cons, inductionHypothesis, List.all_cons, List.all_cons, List.all_cons,
        keeps_and, Bool.and_assoc]

theorem keeps_foldl_or (store : Store) (scope : Scope) (first : Test) (rest : List Test) :
    (rest.foldl or first).keeps store scope =
      (first :: rest).any fun test => test.keeps store scope := by
  induction rest generalizing first with
  | nil => exact (Bool.or_false _).symm
  | cons second rest inductionHypothesis =>
      rw [List.foldl_cons, inductionHypothesis, List.any_cons, List.any_cons, List.any_cons,
        keeps_or, Bool.or_assoc]

section Many

variable {tests : List Test}

theorem written_allOf? {test : Test} (made : allOf? tests = some test) :
    test.written = .separated " AND " (tests.map Test.written) := by
  cases tests with
  | nil => cases made
  | cons first rest =>
      cases made
      exact written_foldl (fun _ _ => rfl) first rest

theorem written_anyOf? {test : Test} (made : anyOf? tests = some test) :
    test.written = .text "(" ++ .separated " OR " (tests.map Test.written) ++ .text ")" := by
  cases tests with
  | nil => cases made
  | cons first rest =>
      cases made
      rw [written, written_foldl (fun _ _ => rfl)]

theorem all_allOf? (store : Store) (scope : Scope) :
    ((allOf? tests).all fun test => test.keeps store scope) =
      tests.all fun test => test.keeps store scope := by
  cases tests with
  | nil => rfl
  | cons first rest => exact keeps_foldl_and store scope first rest

theorem keeps_anyOf? {test : Test} (store : Store) (scope : Scope)
    (made : anyOf? tests = some test) :
    test.keeps store scope = tests.any fun other => other.keeps store scope := by
  cases tests with
  | nil => cases made
  | cons first rest =>
      cases made
      exact keeps_foldl_or store scope first rest

/-- Conditions that are bound together by more than `AND` are well grouped by it. -/
theorem wellGrouped_allOf? {test : Test} (made : allOf? tests = some test)
    (each : ∀ other ∈ tests, 2 ≤ other.strength ∧ other.WellGrouped) : test.WellGrouped := by
  suffices folded : ∀ (rest : List Test) (first : Test), 1 ≤ first.strength → first.WellGrouped →
      (∀ other ∈ rest, 2 ≤ other.strength ∧ other.WellGrouped) →
        (rest.foldl and first).WellGrouped by
    cases tests with
    | nil => cases made
    | cons first rest =>
        cases made
        rcases List.forall_mem_cons.mp each with ⟨⟨strong, grouped⟩, others⟩
        exact folded rest first (Nat.le_of_succ_le strong) grouped others
  intro rest
  induction rest with
  | nil => exact fun _ _ grouped _ => grouped
  | cons second rest inductionHypothesis =>
      intro first weak grouped others
      rcases List.forall_mem_cons.mp others with ⟨⟨strong, groupedToo⟩, later⟩
      exact inductionHypothesis (first.and second) (Nat.le_refl 1)
        ⟨⟨weak, strong⟩, grouped, groupedToo⟩ later

/-- Conditions that are bound together by more than `OR` are well grouped by it, and with their
parentheses they can stand beside others. -/
theorem wellGrouped_anyOf? {test : Test} (made : anyOf? tests = some test)
    (each : ∀ other ∈ tests, 1 ≤ other.strength ∧ other.WellGrouped) :
    2 ≤ test.strength ∧ test.WellGrouped := by
  suffices folded : ∀ (rest : List Test) (first : Test), first.WellGrouped →
      (∀ other ∈ rest, 1 ≤ other.strength ∧ other.WellGrouped) →
        (rest.foldl or first).WellGrouped by
    cases tests with
    | nil => cases made
    | cons first rest =>
        cases made
        rcases List.forall_mem_cons.mp each with ⟨⟨_, grouped⟩, others⟩
        exact ⟨Nat.le_refl 2, folded rest first grouped others⟩
  intro rest
  induction rest with
  | nil => exact fun _ grouped _ => grouped
  | cons second rest inductionHypothesis =>
      intro first grouped others
      rcases List.forall_mem_cons.mp others with ⟨⟨strong, groupedToo⟩, later⟩
      exact inductionHypothesis (first.or second) ⟨strong, grouped, groupedToo⟩ later

end Many

end Test

end Sql
end Gallery
