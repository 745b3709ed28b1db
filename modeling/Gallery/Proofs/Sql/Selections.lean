import Gallery.Proofs.Sql.Conditions

namespace Gallery
namespace Sql

/-!
# Selections

A selection asks for archives: it joins tables to them, keeps the rows of which a
condition is true, groups what is left by archive, counts distinct values in each group,
and puts the archives in order.  It has a written form, which is one statement, and an
answer in a store, which follows the written form clause by clause.

Values are ordered as SQLite orders them, with missing values before all others.  An
order is the first of its terms that tells two rows apart.
-/

/-! ## Orders -/

/-- What rows are ordered by. -/
inductive OrderKey where
  | column (cell : Cell)
  /-- Whether a value is missing, as the number one or zero. -/
  | isNull (cell : Cell)
  /-- A text without regard to the case of its letters. -/
  | noCase (cell : Cell)

namespace OrderKey

def sql : OrderKey → String
  | .column cell => cell.sql
  | .isNull cell => cell.sql ++ " IS NULL"
  | .noCase cell => cell.sql ++ " COLLATE NOCASE"

/-- The ascending order of two rows. -/
def order (a b : Scope) : OrderKey → Ordering
  | .column cell => (a.value cell).order (b.value cell)
  | .isNull cell =>
      compare (if (a.value cell).isMissing then 1 else 0)
        (if (b.value cell).isMissing then 1 else 0)
  | .noCase cell =>
      match a.value cell, b.value cell with
      | .text first, .text second => Text.compareNoCase first second
      | first, second => first.order second

end OrderKey

/-- One term of an order. -/
structure OrderTerm where
  key : OrderKey
  direction : Search.Direction

namespace OrderTerm

def sql (term : OrderTerm) : String :=
  term.key.sql ++ " " ++ directionKeyword term.direction

def order (term : OrderTerm) (a b : Scope) : Ordering :=
  term.direction.apply (term.key.order a b)

end OrderTerm

/-- The order of two rows: the first term that tells them apart decides. -/
def orderBy (terms : List OrderTerm) (a b : Scope) : Ordering :=
  terms.foldr (fun term later => (term.order a b).then later) .eq

theorem orderBy_append (first second : List OrderTerm) (a b : Scope) :
    orderBy (first ++ second) a b = (orderBy first a b).then (orderBy second a b) := by
  induction first with
  | nil => rfl
  | cons term rest inductionHypothesis =>
      rw [List.cons_append, orderBy, List.foldr_cons, ← orderBy, inductionHypothesis,
        ← Ordering.then_assoc]
      rfl

theorem orderBy_singleton (term : OrderTerm) (a b : Scope) : orderBy [term] a b = term.order a b :=
  Ordering.then_eq

/-! ## Selections -/

/-- A condition on the number of distinct values in a column of a group. -/
structure CountTest where
  reference : Reference
  comparison : Comparison
  bound : Int64

namespace CountTest

def written (test : CountTest) : Written :=
  .text (test.reference.distinctCount ++ " " ++ test.comparison.symbol ++ " ") ++
    .value (.int test.bound)

def holds (group : List Joined) (test : CountTest) : Bool :=
  test.comparison.holds (countDistinct group test.reference) test.bound.toInt

end CountTest

/-- A selection of archives.  Counts are taken only where rows are grouped. -/
structure Selection where
  joins : List LeftJoin
  condition : Option Test
  grouping : Option (List CountTest)
  order : List OrderTerm

namespace Selection

/-- The condition as it is written. -/
def whereClause (selection : Selection) : Written :=
  match selection.condition with
  | some test => .text " WHERE " ++ test.written
  | none => .empty

/-- The grouping as it is written. -/
def groupClause (selection : Selection) : Written :=
  match selection.grouping with
  | some [] => .text (" GROUP BY " ++ archiveId.sql)
  | some counts =>
      .text (" GROUP BY " ++ archiveId.sql) ++ .text " HAVING " ++
        .separated " AND " (counts.map CountTest.written)
  | none => .empty

/-- The order as it is written. -/
def orderClause (selection : Selection) : Written :=
  .text " ORDER BY " ++ .separated ", " (selection.order.map fun term => .text term.sql)

/-- A selection as it is written. -/
def written (selection : Selection) : Written :=
  .text "SELECT archives.id, archives.title FROM archives" ++
    Sql.written (selection.joins.flatMap LeftJoin.fragments) ++ selection.whereClause ++
      selection.groupClause ++ selection.orderClause

/-- The rows that are kept. -/
def rows (selection : Selection) (store : Store) : List Joined :=
  (joinAll store selection.joins (store.archives.map Joined.ofArchive)).filter fun row =>
    selection.condition.all fun test => test.keeps store (.ofArchive row.archive)

/-- The rows of an answer before they are ordered: where they are grouped, one of each group that
has the right counts. -/
def unordered (selection : Selection) (store : Store) : List Joined :=
  match selection.grouping with
  | some counts =>
      ((groups (selection.rows store)).filter fun group =>
        counts.all fun test => test.holds group).filterMap List.head?
  | none => selection.rows store

/-- The ids and titles that a selection answers with. -/
def answer (selection : Selection) (store : Store) : List (Int64 × String) :=
  ((selection.unordered store).mergeSort fun a b =>
    (orderBy selection.order (.ofArchive a.archive) (.ofArchive b.archive)).isLE).map fun row =>
      (row.archive.id, row.archive.title)

/-- Whether the condition is read as it stands. -/
def WellGrouped (selection : Selection) : Prop :=
  ∀ test ∈ selection.condition, test.WellGrouped

end Selection

end Sql
end Gallery
