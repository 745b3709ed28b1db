import Gallery.Sql.Statement
import Gallery.Store.Basic
import Mathlib.Data.List.Dedup
import Mathlib.Data.List.Nodup

namespace Gallery
namespace Sql

/-!
# Left joins, groups and distinct counts

A statement that counts joins tables to the archives and groups what comes out.  Here
the joins of such a statement are syntax with a written form, and they are evaluated row
by row: every row so far is continued with each row of the joined table that its
condition admits, or with missing values where there is none.  Rows are therefore never
lost, but they are multiplied by every join, and only counting distinct values undoes
that.

What later joins do to the columns of earlier ones is said by two lemmas.  A join adds
the values of its own table that some row admits, and it leaves the values of all others.
-/

/-! ## Joins as they are written -/

/-- The columns that joins and counts speak of. -/
inductive Field where
  | id
  | archive
  | tag
  | scope
deriving DecidableEq

/-- The name of a column in its table. -/
def Field.sql : Field → String
  | .id => "id"
  | .archive => "archive_id"
  | .tag => "tag_id"
  | .scope => "namespace"

/-- A column of the table that has been joined under some name. -/
structure Reference where
  name : String
  field : Field
deriving DecidableEq

/-- A reference as it is written. -/
def Reference.sql (reference : Reference) : String :=
  reference.name ++ "." ++ reference.field.sql

/-- The tables that are joined. -/
inductive JoinedTable where
  | tags
  | links
  | sources
deriving DecidableEq

/-- The name of a joined table. -/
def JoinedTable.sql : JoinedTable → String
  | .tags => "tags"
  | .links => "archive_tags"
  | .sources => "archive_sources"

/-- A table joined under a name, where one of its columns has to equal a column of the rows so far
and another one may have to equal a bound text. -/
structure LeftJoin where
  table : JoinedTable
  name : String
  field : Field
  target : Reference
  bound : Option (Field × String) := none

namespace LeftJoin

/-- The text of a join up to its bound text. -/
def sql (join : LeftJoin) : String :=
  " LEFT JOIN " ++ join.table.sql ++ " AS " ++ join.name ++ " ON " ++
    (Reference.mk join.name join.field).sql ++ " = " ++ join.target.sql ++
    match join.bound with
    | some (field, _) => " AND " ++ (Reference.mk join.name field).sql ++ " = "
    | none => ""

theorem sql_of_bound (table : JoinedTable) (name : String) (field bound : Field)
    (target : Reference) (text : String) :
    (LeftJoin.mk table name field target (some (bound, text))).sql =
      (" LEFT JOIN " ++ table.sql ++ " AS ") ++ name ++ " ON " ++ name ++
        ("." ++ field.sql ++ " = " ++ target.sql ++ " AND ") ++ name ++
        ("." ++ bound.sql ++ " = ") := by
  unfold LeftJoin.sql Reference.sql
  ac_rfl

/-- The fragments of a join. -/
def fragments (join : LeftJoin) : List Fragment :=
  .raw join.sql :: (join.bound.map fun restriction => textBind restriction.2).toList

end LeftJoin

/-! ## Rows -/

/-- A value in a column. -/
inductive Value where
  | null
  | integer (number : Int)
  | text (content : String)
deriving DecidableEq

/-- Whether an equation between two values is true.  It is not when one of them is missing, even if
both are. -/
def Value.equals (a b : Value) : Bool :=
  a ≠ .null && a = b

/-- A row of a table, which has no values in columns of other tables. -/
abbrev Row := Field → Value

/-- The row that stands where no row is admitted. -/
def missing : Row := fun _ => .null

/-- The row of an archive. -/
def archiveRow (archive : Store.Archive) : Row
  | .id => .integer archive.id.toInt
  | _ => .null

/-- The row of a tag. -/
def tagRow (tag : Listing.Tag) : Row
  | .id => .integer tag.id.toInt
  | .scope => .text tag.scope
  | _ => .null

/-- The row of a link. -/
def linkRow (link : Store.Link) : Row
  | .archive => .integer link.archive.toInt
  | .tag => .integer link.tag.toInt
  | _ => .null

/-- The row of a source. -/
def sourceRow (source : Store.Source) : Row
  | .id => .integer source.id
  | .archive => .integer source.archive.toInt
  | _ => .null

/-- The rows of a joined table. -/
def JoinedTable.rows (store : Store) : JoinedTable → List Row
  | .tags => store.tags.map tagRow
  | .links => store.links.map linkRow
  | .sources => store.sources.map sourceRow

/-! ## Joining -/

/-- The name under which every row has its archive. -/
def archivesName : String := "archives"

/-- The id of the archive of a row. -/
def archiveId : Reference :=
  ⟨archivesName, .id⟩

/-- A row of joined tables: an archive, and the row that stands under each name. -/
structure Joined where
  archive : Store.Archive
  rows : String → Row

namespace Joined

/-- The row of an archive before any join. -/
def ofArchive (archive : Store.Archive) : Joined where
  archive := archive
  rows := fun name => if name = archivesName then archiveRow archive else missing

/-- The value of a column. -/
def value (joined : Joined) (reference : Reference) : Value :=
  joined.rows reference.name reference.field

/-- The joined row with a further row under the given name. -/
def extend (joined : Joined) (name : String) (row : Row) : Joined where
  archive := joined.archive
  rows := fun other => if other = name then row else joined.rows other

theorem value_extend_own (joined : Joined) (name : String) (row : Row) (field : Field) :
    (joined.extend name row).value ⟨name, field⟩ = row field := by
  simp only [value, extend, if_true]

theorem value_extend_of_ne (joined : Joined) {name : String} (row : Row) {reference : Reference}
    (other : reference.name ≠ name) :
    (joined.extend name row).value reference = joined.value reference := by
  simp only [value, extend, if_neg other]

end Joined

namespace LeftJoin

/-- Whether a row of the joined table fits a row so far. -/
def admits (join : LeftJoin) (joined : Joined) (row : Row) : Bool :=
  (row join.field).equals (joined.value join.target) &&
    join.bound.all fun restriction => (row restriction.1).equals (.text restriction.2)

/-- The rows that continue a row: with each row that is admitted, or with missing values. -/
def continuations (join : LeftJoin) (store : Store) (joined : Joined) : List Joined :=
  let admitted := (join.table.rows store).filter (join.admits joined)
  (if admitted.isEmpty then [missing] else admitted).map (joined.extend join.name)

/-- Joins a table to the rows so far. -/
def run (store : Store) (rows : List Joined) (join : LeftJoin) : List Joined :=
  rows.flatMap (join.continuations store)

end LeftJoin

/-- Joins tables one after the other. -/
def joinAll (store : Store) (joins : List LeftJoin) (rows : List Joined) : List Joined :=
  joins.foldl (LeftJoin.run store) rows

section Joins

variable {store : Store}

theorem LeftJoin.exists_of_mem_continuations {join : LeftJoin} {joined row : Joined}
    (member : row ∈ join.continuations store joined) :
    ∃ added, row = joined.extend join.name added := by
  rcases List.mem_map.mp member with ⟨added, _, same⟩
  exact ⟨added, same.symm⟩

/-- A left join loses no row. -/
theorem LeftJoin.exists_continuation (join : LeftJoin) (store : Store) (joined : Joined) :
    ∃ row, row ∈ join.continuations store joined := by
  apply List.exists_mem_of_ne_nil
  rw [continuations, ne_eq, List.map_eq_nil_iff]
  split
  · exact List.cons_ne_nil _ _
  · rename_i some_row
    exact fun empty => some_row (List.isEmpty_iff.mpr empty)

/-- Rows are joined independently of each other. -/
theorem joinAll_flatMap {α : Type} (joins : List LeftJoin) (items : List α)
    (rows : α → List Joined) :
    joinAll store joins (items.flatMap rows) =
      items.flatMap fun item => joinAll store joins (rows item) := by
  induction joins generalizing rows with
  | nil => rfl
  | cons join joins inductionHypothesis =>
      simp only [joinAll, List.foldl_cons, LeftJoin.run] at inductionHypothesis ⊢
      rw [List.flatMap_assoc, inductionHypothesis]

theorem joinAll_append (first second : List LeftJoin) (rows : List Joined) :
    joinAll store (first ++ second) rows = joinAll store second (joinAll store first rows) :=
  List.foldl_append

theorem joinAll_ne_nil (joins : List LeftJoin) {rows : List Joined} (nonempty : rows ≠ []) :
    joinAll store joins rows ≠ [] := by
  induction joins generalizing rows with
  | nil => exact nonempty
  | cons join joins inductionHypothesis =>
      apply inductionHypothesis
      rcases List.exists_mem_of_ne_nil rows nonempty with ⟨joined, member⟩
      rcases join.exists_continuation store joined with ⟨row, continued⟩
      exact List.ne_nil_of_mem (List.mem_flatMap.mpr ⟨joined, member, continued⟩)

/-! ## Values in columns -/

/-- Whether some row has a value in a column. -/
def HasValue (rows : List Joined) (reference : Reference) (value : Value) : Prop :=
  ∃ row ∈ rows, row.value reference = value

/-- A join leaves the values under other names. -/
theorem hasValue_run_of_ne {join : LeftJoin} {rows : List Joined} {reference : Reference}
    {value : Value} (other : reference.name ≠ join.name) :
    HasValue (join.run store rows) reference value ↔ HasValue rows reference value := by
  constructor
  · rintro ⟨row, member, isValue⟩
    rcases List.mem_flatMap.mp member with ⟨joined, inRows, continued⟩
    rcases LeftJoin.exists_of_mem_continuations continued with ⟨added, rfl⟩
    rw [joined.value_extend_of_ne added other] at isValue
    exact ⟨joined, inRows, isValue⟩
  · rintro ⟨joined, inRows, isValue⟩
    rcases join.exists_continuation store joined with ⟨row, continued⟩
    rcases LeftJoin.exists_of_mem_continuations continued with ⟨added, rfl⟩
    refine ⟨_, List.mem_flatMap.mpr ⟨joined, inRows, continued⟩, ?_⟩
    rw [joined.value_extend_of_ne added other, isValue]

/-- A join adds the values of the rows that it admits. -/
theorem hasValue_run_own {join : LeftJoin} {rows : List Joined} {field : Field} {value : Value}
    (present : value ≠ .null) :
    HasValue (join.run store rows) ⟨join.name, field⟩ value ↔
      ∃ joined ∈ rows, ∃ row ∈ join.table.rows store,
        join.admits joined row = true ∧ row field = value := by
  constructor
  · rintro ⟨row, member, isValue⟩
    rcases List.mem_flatMap.mp member with ⟨joined, inRows, continued⟩
    rcases List.mem_map.mp continued with ⟨added, isAdded, rfl⟩
    rw [Joined.value_extend_own] at isValue
    split at isAdded
    · rw [List.mem_singleton.mp isAdded] at isValue
      exact absurd isValue.symm present
    · rcases List.mem_filter.mp isAdded with ⟨inTable, admitted⟩
      exact ⟨joined, inRows, added, inTable, admitted, isValue⟩
  · rintro ⟨joined, inRows, added, inTable, admitted, isValue⟩
    have isAdmitted := List.mem_filter.mpr ⟨inTable, admitted⟩
    refine ⟨joined.extend join.name added, List.mem_flatMap.mpr ⟨joined, inRows, ?_⟩, ?_⟩
    · apply List.mem_map_of_mem
      rw [if_neg]
      · exact isAdmitted
      · intro empty
        rw [List.isEmpty_iff.mp empty] at isAdmitted
        cases isAdmitted
    · rw [Joined.value_extend_own, isValue]

/-- Joins under other names leave the values. -/
theorem hasValue_joinAll_of_fresh {joins : List LeftJoin} {rows : List Joined}
    {reference : Reference} {value : Value} (fresh : ∀ join ∈ joins, reference.name ≠ join.name) :
    HasValue (joinAll store joins rows) reference value ↔ HasValue rows reference value := by
  induction joins generalizing rows with
  | nil => exact Iff.rfl
  | cons join joins inductionHypothesis =>
      rcases List.forall_mem_cons.mp fresh with ⟨first, others⟩
      exact (inductionHypothesis others).trans (hasValue_run_of_ne first)

/-- What a join adds stays, and it is added where the joins before reach the column that it hangs
on. -/
theorem hasValue_joinAll_own {before after : List LeftJoin} {join : LeftJoin} {rows : List Joined}
    {field : Field} {value : Value} (fresh : ∀ later ∈ after, join.name ≠ later.name)
    (present : value ≠ .null) :
    HasValue (joinAll store (before ++ join :: after) rows) ⟨join.name, field⟩ value ↔
      ∃ row ∈ join.table.rows store, row field = value ∧ row join.field ≠ .null ∧
        (join.bound.all fun restriction => (row restriction.1).equals (.text restriction.2)) ∧
        HasValue (joinAll store before rows) join.target (row join.field) := by
  have ends : joinAll store (before ++ join :: after) rows =
      joinAll store after (join.run store (joinAll store before rows)) :=
    joinAll_append before (join :: after) rows
  rw [ends, hasValue_joinAll_of_fresh fresh, hasValue_run_own present]
  simp only [LeftJoin.admits, Value.equals, Bool.and_eq_true, decide_eq_true_eq]
  constructor
  · rintro ⟨joined, inRows, row, inTable, ⟨⟨hangs, reached⟩, bound⟩, isValue⟩
    exact ⟨row, inTable, isValue, hangs, bound, joined, inRows, reached.symm⟩
  · rintro ⟨row, inTable, isValue, hangs, bound, joined, inRows, reached⟩
    exact ⟨joined, inRows, row, inTable, ⟨⟨hangs, reached.symm⟩, bound⟩, isValue⟩

/-- Where no two joins have the same name, none takes the name of an earlier one. -/
theorem fresh_of_distinct {before after : List LeftJoin} {join : LeftJoin}
    (distinct : ((before ++ join :: after).map LeftJoin.name).Nodup) :
    ∀ later ∈ after, join.name ≠ later.name := by
  rw [List.map_append, List.map_cons] at distinct
  intro later member same
  have fresh := (List.nodup_cons.mp (List.nodup_append.mp distinct).2.1).1
  exact fresh (same ▸ List.mem_map_of_mem member)

/-- A join that hangs on the archive reaches the rows of that archive. -/
theorem hasValue_joinAll_archive {before after : List LeftJoin} {join : LeftJoin}
    {archive : Store.Archive} {field : Field} {value : Value}
    (distinct : ((before ++ join :: after).map LeftJoin.name).Nodup)
    (free : ∀ other ∈ before, archivesName ≠ other.name) (hangs : join.target = archiveId)
    (unbound : join.bound = none) (present : value ≠ .null) :
    HasValue (joinAll store (before ++ join :: after) [.ofArchive archive])
        ⟨join.name, field⟩ value ↔
      ∃ row ∈ join.table.rows store, row field = value ∧
        row join.field = .integer archive.id.toInt := by
  have archiveValue : ∀ reached, HasValue (joinAll store before [.ofArchive archive]) archiveId
      reached ↔ reached = .integer archive.id.toInt := by
    intro reached
    refine (hasValue_joinAll_of_fresh free).trans ⟨?_, ?_⟩
    · rintro ⟨joined, isArchive, rfl⟩
      rw [List.mem_singleton.mp isArchive]
      rfl
    · rintro rfl
      exact ⟨_, List.mem_singleton_self _, rfl⟩
  rw [hasValue_joinAll_own (fresh_of_distinct distinct) present, hangs, unbound]
  simp only [archiveValue, Option.all_none, true_and]
  refine exists_congr fun row => and_congr_right fun _ => and_congr_right fun _ => ?_
  refine ⟨And.right, fun reached => ⟨?_, reached⟩⟩
  rw [reached]
  exact Value.noConfusion

/-- Every row keeps its archive, and what it says of it. -/
theorem of_mem_joinAll {joins : List LeftJoin} {archive : Store.Archive}
    (fresh : ∀ join ∈ joins, archivesName ≠ join.name) {row : Joined}
    (member : row ∈ joinAll store joins [.ofArchive archive]) :
    row.archive = archive ∧
      ∀ field, row.value ⟨archivesName, field⟩ = archiveRow archive field := by
  suffices kept : ∀ {rows : List Joined}, (∀ row ∈ rows, row.archive = archive ∧
      ∀ field, row.value ⟨archivesName, field⟩ = archiveRow archive field) →
      ∀ row ∈ joinAll store joins rows, row.archive = archive ∧
        ∀ field, row.value ⟨archivesName, field⟩ = archiveRow archive field from
    kept (List.forall_mem_singleton.mpr ⟨rfl, fun field => rfl⟩) row member
  clear member row
  induction joins with
  | nil => exact fun each => each
  | cons join joins inductionHypothesis =>
      rcases List.forall_mem_cons.mp fresh with ⟨first, others⟩
      intro rows each
      apply inductionHypothesis others
      intro row member
      rcases List.mem_flatMap.mp member with ⟨joined, inRows, continued⟩
      rcases LeftJoin.exists_of_mem_continuations continued with ⟨added, rfl⟩
      rcases each joined inRows with ⟨own, values⟩
      refine ⟨own, fun field => ?_⟩
      rw [joined.value_extend_of_ne added first, values]

end Joins

/-! ## Groups and counts -/

/-- The rows of each archive that has some. -/
def groups (rows : List Joined) : List (List Joined) :=
  (rows.map (·.value archiveId)).dedup.map fun key =>
    rows.filter fun row => row.value archiveId = key

/-- The number of different values in a column as it is written. -/
def Reference.distinctCount (reference : Reference) : String :=
  "COUNT(DISTINCT " ++ reference.sql ++ ")"

/-- The number of different values in a column, not counting missing ones. -/
def countDistinct (rows : List Joined) (reference : Reference) : Nat :=
  ((rows.map (·.value reference)).filter (· ≠ .null)).dedup.length

theorem dedup_append_of_same {α : Type} [DecidableEq α] {key : α} {first rest : List α}
    (nonempty : first ≠ []) (same : ∀ value ∈ first, value = key) (fresh : key ∉ rest) :
    (first ++ rest).dedup = key :: rest.dedup := by
  induction first with
  | nil => exact absurd rfl nonempty
  | cons value first inductionHypothesis =>
      rcases List.forall_mem_cons.mp same with ⟨rfl, later⟩
      cases first with
      | nil => exact List.dedup_cons_of_notMem fresh
      | cons other first =>
          have again : value ∈ (other :: first) ++ rest := by
            rw [later other List.mem_cons_self]
            exact List.mem_append_left _ List.mem_cons_self
          rw [List.cons_append, List.dedup_cons_of_mem again]
          exact inductionHypothesis (List.cons_ne_nil _ _) later

/-- The rows of one archive in front of those of others are a group. -/
theorem groups_append {first rest : List Joined} {key : Value} (nonempty : first ≠ [])
    (same : ∀ row ∈ first, row.value archiveId = key)
    (other : ∀ row ∈ rest, row.value archiveId ≠ key) :
    groups (first ++ rest) = first :: groups rest := by
  have fresh : key ∉ rest.map (·.value archiveId) := by
    intro member
    rcases List.mem_map.mp member with ⟨row, inRest, isKey⟩
    exact other row inRest isKey
  have keys : ((first ++ rest).map (·.value archiveId)).dedup =
      key :: (rest.map (·.value archiveId)).dedup := by
    rw [List.map_append]
    apply dedup_append_of_same _ _ fresh
    · exact fun empty => nonempty (List.map_eq_nil_iff.mp empty)
    · exact List.forall_mem_map.mpr same
  have own : (first ++ rest).filter (fun row => row.value archiveId = key) = first := by
    rw [List.filter_append,
      List.filter_eq_self.mpr fun row member => decide_eq_true (same row member),
      List.filter_eq_nil_iff.mpr fun row member isKey =>
        other row member (of_decide_eq_true isKey), List.append_nil]
  rw [groups, keys, List.map_cons, own]
  refine congrArg (first :: ·) (List.map_congr_left fun later member => ?_)
  -- No row of the first archive has the key of a later one.
  rw [List.filter_append, List.filter_eq_nil_iff.mpr, List.nil_append]
  intro row inFirst isLater
  have sameKey : key = later := (same row inFirst).symm.trans (of_decide_eq_true isLater)
  exact fresh (sameKey ▸ List.mem_dedup.mp member)

/-- Where the rows come archive by archive, so do the groups. -/
theorem groups_flatMap {α : Type} {items : List α} {rows : α → List Joined} {key : α → Value}
    (distinct : (items.map key).Nodup) (nonempty : ∀ item ∈ items, rows item ≠ [])
    (keyed : ∀ item ∈ items, ∀ row ∈ rows item, row.value archiveId = key item) :
    groups (items.flatMap rows) = items.map rows := by
  induction items with
  | nil => rfl
  | cons item items inductionHypothesis =>
      rcases List.nodup_cons.mp distinct with ⟨fresh, later⟩
      rcases List.forall_mem_cons.mp nonempty with ⟨someRow, someRows⟩
      rcases List.forall_mem_cons.mp keyed with ⟨ownKey, keys⟩
      rw [List.flatMap_cons, groups_append someRow ownKey, inductionHypothesis later someRows keys,
        List.map_cons]
      intro row member sameKey
      rcases List.mem_flatMap.mp member with ⟨other, inItems, inRows⟩
      have itsKey := (keys other inItems row inRows).symm.trans sameKey
      exact fresh (List.mem_map.mpr ⟨other, inItems, itsKey⟩)

/-- A condition on the rows that depends on their item only is a condition on the items. -/
theorem filter_flatMap_of_item {α β : Type} {items : List α} {rows : α → List β} {kept : β → Bool}
    {own : α → Bool} (same : ∀ item ∈ items, ∀ row ∈ rows item, kept row = own item) :
    (items.flatMap rows).filter kept = (items.filter own).flatMap rows := by
  induction items with
  | nil => rfl
  | cons item items inductionHypothesis =>
      rcases List.forall_mem_cons.mp same with ⟨first, others⟩
      rw [List.flatMap_cons, List.filter_append, inductionHypothesis others,
        List.filter_congr first]
      cases isKept : own item with
      | true => rw [List.filter_true, List.filter_cons_of_pos isKept, List.flatMap_cons]
      | false =>
          rw [List.filter_false, List.nil_append, List.filter_cons_of_neg]
          exact Bool.eq_false_iff.mp isKept

/-- Where a column has the numbers of some items, and no number belongs to two of them, the items
are counted. -/
theorem countDistinct_eq_length {α : Type} {rows : List Joined} {reference : Reference}
    {items : List α} {number : α → Int} (distinct : (items.map number).Nodup)
    (each : ∀ value, value ≠ .null → (HasValue rows reference value ↔
      ∃ item ∈ items, .integer (number item) = value)) :
    countDistinct rows reference = items.length := by
  have values : (items.map fun item => Value.integer (number item)).Nodup := by
    refine (distinct.of_map number).map_on fun first inFirst second inSecond same => ?_
    rw [Value.integer.injEq] at same
    exact List.inj_on_of_nodup_map distinct inFirst inSecond same
  have length : (items.map fun item => Value.integer (number item)).length = items.length :=
    List.length_map _
  rw [countDistinct, ← length]
  apply List.Perm.length_eq
  apply (List.perm_ext_iff_of_nodup (List.nodup_dedup _) values).mpr
  intro value
  rw [List.mem_dedup, List.mem_filter, decide_eq_true_eq, List.mem_map, List.mem_map]
  by_cases isNull : value = .null
  · subst isNull
    simp only [ne_eq, not_true_eq_false, and_false, reduceCtorEq, exists_false]
  · rw [← each value isNull]
    simp only [ne_eq, isNull, not_false_eq_true, and_true, HasValue]

end Sql
end Gallery
