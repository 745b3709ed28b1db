import Gallery.Proofs.Plan.Counts
import Gallery.Proofs.Plan.Trial
import Gallery.Store.Resolve

namespace Gallery

/-!
# Databases with missing tables

A statement that names a missing table is refused.  So an answer from a database
without some of its tables cannot depend on what stood in them: creating these
tables again, with any rows whatever, leaves every answer as it was.  Refusals may
turn into answers, but never one answer into another.  `Upholds` is this relation
between the outcomes of two steps, and it is kept when steps are put together.
-/

/-! ## Steps that uphold answers -/

/-- Whatever the first step answers, the second one answers too. -/
def Upholds {ε α : Type} (first second : Except ε α) : Prop :=
  ∀ answer, first = .ok answer → second = .ok answer

namespace Upholds

variable {ε α β : Type}

theorem refl (step : Except ε α) : Upholds step step := by
  intro answer answered
  exact answered

theorem of_eq {first second : Except ε α} (same : second = first) : Upholds first second := by
  rw [same]
  exact refl first

/-- A refused step has no answer to uphold. -/
theorem of_error (error : ε) (second : Except ε α) : Upholds (.error error) second := by
  intro answer answered
  cases answered

theorem bind {first second : Except ε α} {next other : α → Except ε β}
    (head : Upholds first second) (tail : ∀ value, Upholds (next value) (other value)) :
    Upholds (first >>= next) (second >>= other) := by
  cases ended : first with
  | error error => exact of_error error _
  | ok value =>
      rw [head value ended]
      exact tail value

theorem mapM {step other : β → Except ε α} (each : ∀ item, Upholds (step item) (other item))
    (items : List β) : Upholds (items.mapM step) (items.mapM other) := by
  induction items with
  | nil => exact refl _
  | cons item rest inductionHypothesis =>
      rw [List.mapM_cons, List.mapM_cons]
      apply (each item).bind
      intro value
      apply inductionHypothesis.bind
      intro values
      exact refl _

end Upholds

/-! ## Creating missing tables again -/

namespace Database

/-- The rows of a table: its own ones if it is there, and new ones otherwise. -/
def rowsOf {α : Type} (database : Database) (table : Table) (own new : List α) : List α :=
  if database.missing.contains table then new else own

/-- The database with its missing tables created again and filled with the rows that
`content` has in them. -/
def recreate (database : Database) (content : Store) : Database where
  missing := []
  store := { database.store with
    archives := database.rowsOf .archives database.store.archives content.archives
    tags := database.rowsOf .tags database.store.tags content.tags
    links := database.rowsOf .archiveTags database.store.links content.links
    sources := database.rowsOf .archiveSources database.store.sources content.sources
    memberships := database.rowsOf .seriesArchive database.store.memberships content.memberships
    index := database.rowsOf .archivesIndex database.store.index content.index }

/-- Whether all of the tables are there. -/
def Present (database : Database) (tables : List Table) : Prop :=
  ∀ table ∈ tables, database.missing.contains table = false

section Tables

variable {database : Database} {tables : List Table}

theorem present_iff : database.refusal? tables = none ↔ database.Present tables := by
  unfold refusal? Present
  simp

theorem Present.append {more : List Table} (first : database.Present tables)
    (second : database.Present more) : database.Present (tables ++ more) := by
  intro table member
  rcases List.mem_append.mp member with inFirst | inSecond
  · exact first table inFirst
  · exact second table inSecond

theorem rowsOf_of_present {α : Type} {table : Table}
    (present : database.missing.contains table = false) (own new : List α) :
    database.rowsOf table own new = own := by
  rw [rowsOf, present]
  rfl

/-- A statement that is not refused for a missing table finds all its tables unchanged. -/
theorem refused_or_present (tables : List Table) :
    (∃ refusal, database.refusal? tables = some refusal) ∨
      database.refusal? tables = none ∧ database.Present tables := by
  cases found : database.refusal? tables with
  | some refusal => exact Or.inl ⟨refusal, rfl⟩
  | none => exact Or.inr ⟨rfl, present_iff.mp found⟩

variable (content : Store)

theorem refusal?_recreate (tables : List Table) :
    (database.recreate content).refusal? tables = none :=
  Plan.refusal?_of_present rfl tables

theorem archives_recreate (present : database.Present tables) (named : .archives ∈ tables) :
    (database.recreate content).store.archives = database.store.archives :=
  rowsOf_of_present (present _ named) _ _

theorem tags_recreate (present : database.Present tables) (named : .tags ∈ tables) :
    (database.recreate content).store.tags = database.store.tags :=
  rowsOf_of_present (present _ named) _ _

theorem links_recreate (present : database.Present tables) (named : .archiveTags ∈ tables) :
    (database.recreate content).store.links = database.store.links :=
  rowsOf_of_present (present _ named) _ _

theorem sourcesOf_recreate (present : database.Present tables) (named : .archiveSources ∈ tables)
    (archive : Int64) :
    (database.recreate content).store.sourcesOf archive = database.store.sourcesOf archive := by
  have sources : (database.recreate content).store.sources = database.store.sources :=
    rowsOf_of_present (present _ named) _ _
  rw [Store.sourcesOf, sources, Store.sourcesOf]

theorem memberships_recreate (present : database.Present tables)
    (named : .seriesArchive ∈ tables) :
    (database.recreate content).store.memberships = database.store.memberships :=
  rowsOf_of_present (present _ named) _ _

theorem indexed_recreate (present : database.Present tables) (named : .archivesIndex ∈ tables)
    (archive : Int64) (expression : String) :
    (database.recreate content).store.indexed archive expression =
      database.store.indexed archive expression := by
  have index : (database.recreate content).store.index = database.store.index :=
    rowsOf_of_present (present _ named) _ _
  rw [Store.indexed, index, Store.indexed]

end Tables

/-! ## Resolving tag filters -/

section Resolving

open Query (TagFilter)

variable (database : Database) (content : Store)

theorem upholds_matchingTags (filter : TagFilter) :
    Upholds (database.matchingTags filter) ((database.recreate content).matchingTags filter) := by
  unfold matchingTags
  rw [refusal?_recreate]
  rcases database.refused_or_present [.tags] with ⟨refusal, refused⟩ | ⟨accepted, present⟩
  · rw [refused]
    exact .of_error _ _
  · rw [accepted]
    apply Upholds.of_eq
    simp only [tags_recreate content present List.mem_cons_self]

/-- Where no tag matches, the table of links is not asked; where it is missing and would
be asked, there is no answer. -/
theorem upholds_carriers (tags : List Int64) :
    Upholds (database.carriers tags) ((database.recreate content).carriers tags) := by
  unfold carriers
  rw [refusal?_recreate]
  split
  · exact .refl _
  · rcases database.refused_or_present [.archiveTags] with ⟨refusal, refused⟩ | ⟨accepted, present⟩
    · rw [refused]
      exact .of_error _ _
    · rw [accepted]
      apply Upholds.of_eq
      simp only [links_recreate content present List.mem_cons_self]

theorem upholds_archivesMatching (filters : List TagFilter) :
    Upholds (database.archivesMatching filters)
      ((database.recreate content).archivesMatching filters) := by
  apply (Upholds.mapM (database.upholds_matchingTags content) filters).bind
  intro tags
  exact database.upholds_carriers content tags.flatten

end Resolving

end Database

/-! ## Evaluating plans -/

namespace Plan

open Store (Archive)

/-- The table whose rows a count counts. -/
def Target.table : Target → Table
  | .tags | .tagsIn _ => .archiveTags
  | .sources => .archiveSources

/-- A plan that joins the rows that it counts. -/
def JoinsCounted (plan : Plan) : Prop :=
  ∀ having ∈ plan.having, having.target.table ∈ plan.joins.map CountJoin.table

/-- Every count asks for the join on the rows that it counts. -/
theorem mem_joins_of_mem_countsFrom {number : Nat} {filters : List Query.NumberFilter}
    {count : Count} (member : count ∈ countsFrom number filters) :
    count.having.target.table ∈ count.joins.map CountJoin.table := by
  induction filters generalizing number with
  | nil => cases member
  | cons filter others inductionHypothesis =>
      rcases filter with ⟨subject, comparison, value⟩
      cases subject with
      | pages | size => exact inductionHypothesis member
      | tagCount | sourceCount | namespaceCount name =>
          rcases List.mem_cons.mp member with rfl | later
          · exact List.mem_cons_self
          · exact inductionHypothesis later

theorem joinsCounted_ofQuery (query : Query) (resolution : Resolution) (request : Search.Request)
    (options : Search.Options) : (ofQuery query resolution request options).JoinsCounted := by
  intro having member
  rcases List.mem_map.mp member with ⟨count, inCounts, rfl⟩
  rcases List.mem_map.mp (mem_joins_of_mem_countsFrom inCounts) with ⟨join, asked, isTable⟩
  rw [← isTable]
  apply List.mem_map_of_mem
  exact mem_foldl_ensureJoin.mpr (Or.inr (List.mem_flatMap.mpr ⟨count, inCounts, asked⟩))

section Evaluating

variable {database : Database} {archive : Archive} (content : Store)

theorem Condition.holds_recreate {condition : Condition}
    (present : database.Present condition.tables) :
    condition.holds (database.recreate content).store archive =
      condition.holds database.store archive := by
  cases condition with
  | hasTag scope pattern =>
      simp only [holds, Store.carries, Database.links_recreate content present List.mem_cons_self,
        Database.tags_recreate content present (List.mem_cons_of_mem _ List.mem_cons_self)]
  | fullText words =>
      simp only [holds, Store.answersWords]
      cases compiled : FullText.Match.ofWords? words with
      | none => rfl
      | some condition =>
          have named : .archivesIndex ∈ (Condition.fullText words).tables := by
            simp [tables, compiled]
          cases condition <;> simp only [Database.indexed_recreate content present named]
  | anySourceName _ | anySourceUrl _ =>
      simp only [holds, Database.sourcesOf_recreate content present List.mem_cons_self]
  | inSeries =>
      simp only [holds, Database.memberships_recreate content present List.mem_cons_self]
  | idIn _ | idNotIn _ | compare _ _ _ | language _ | visible => rfl

theorem Condition.attempt_recreate {condition : Condition}
    (present : database.Present condition.tables) :
    condition.attempt (database.recreate content).store archive =
      condition.attempt database.store archive := by
  have holds : condition.holds (database.recreate content).store archive =
      condition.holds database.store archive := Condition.holds_recreate content present
  cases condition with
  | hasTag scope pattern =>
      simp only [attempt, holds, Database.links_recreate content present List.mem_cons_self,
        Database.tags_recreate content present (List.mem_cons_of_mem _ List.mem_cons_self)]
  | anySourceName _ | anySourceUrl _ =>
      simp only [attempt, Database.sourcesOf_recreate content present List.mem_cons_self]
  | fullText _ | idIn _ | idNotIn _ | compare _ _ _ | language _ | inSeries | visible =>
      simp only [attempt, holds]

theorem Having.holds_recreate {plan : Plan} {having : Having} (member : having ∈ plan.having)
    (joined : plan.JoinsCounted) (present : database.Present plan.tables) :
    having.holds (database.recreate content).store plan.joins archive =
      having.holds database.store plan.joins archive := by
  have ofJoin : ∀ table ∈ plan.joins.map CountJoin.table, table ∈ plan.tables := by
    intro table inJoins
    exact List.mem_cons_of_mem _ (List.mem_append_left _ inJoins)
  have counted := ofJoin _ (joined having member)
  rcases having with ⟨target, comparison, value⟩
  cases target with
  | tags => simp only [holds, Target.count, Database.links_recreate content present counted]
  | sources => simp only [holds, Target.count, Database.sourcesOf_recreate content present counted]
  | tagsIn label =>
      simp only [holds, Target.count, Database.links_recreate content present counted]
      cases found : scopeOf plan.joins label with
      | none => rfl
      | some scope =>
          have named := ofJoin _ (List.mem_map_of_mem (mem_of_scopeOf found))
          simp only [Database.tags_recreate content present named]

variable {plan : Plan}

theorem present_of_condition (present : database.Present plan.tables) {condition : Condition}
    (member : condition ∈ plan.conditions) : database.Present condition.tables := by
  intro table named
  apply present
  apply List.mem_cons_of_mem
  exact List.mem_append_right _ (List.mem_flatMap.mpr ⟨condition, member, named⟩)

theorem holds_recreate (joined : plan.JoinsCounted) (present : database.Present plan.tables) :
    plan.holds (database.recreate content).store archive = plan.holds database.store archive := by
  rw [Bool.eq_iff_iff]
  simp only [holds, Bool.and_eq_true, List.all_eq_true]
  apply and_congr
  · apply forall₂_congr
    intro condition member
    rw [Condition.holds_recreate content (present_of_condition present member)]
  · apply forall₂_congr
    intro having member
    rw [Having.holds_recreate content member joined present]

theorem rowRefusal?_recreate (present : database.Present plan.tables) :
    plan.rowRefusal? (database.recreate content).store archive =
      plan.rowRefusal? database.store archive := by
  have tried : tryAll (database.recreate content).store archive (trialOrder plan.conditions) =
      tryAll database.store archive (trialOrder plan.conditions) := by
    apply tryAll_congr
    intro condition member
    apply Condition.attempt_recreate
    exact present_of_condition present (mem_of_mem_trialOrder member)
  rw [rowRefusal?, rowRefusal?, tried]

variable (plan) in
/-- A plan that is answered without some tables is answered in the same way with them. -/
theorem upholds_evaluate (joined : plan.JoinsCounted) :
    Upholds (plan.evaluate database) (plan.evaluate (database.recreate content)) := by
  rcases database.refused_or_present plan.tables with ⟨refusal, refused⟩ | ⟨accepted, present⟩
  · have noAnswer : plan.evaluate database = .error refusal := by
      rw [evaluate, refusal?, refused]
    rw [noAnswer]
    exact .of_error _ _
  · have archives := Database.archives_recreate content present List.mem_cons_self
    have sameRefusal : plan.refusal? (database.recreate content) = plan.refusal? database := by
      have sameRows : plan.rowRefusal? (database.recreate content).store =
          plan.rowRefusal? database.store := funext fun _ => rowRefusal?_recreate content present
      rw [refusal?, refusal?, Database.refusal?_recreate, accepted, archives, sameRows]
    have sameRows : plan.rows (database.recreate content).store = plan.rows database.store := by
      have sameHolds : plan.holds (database.recreate content).store = plan.holds database.store :=
        funext fun _ => holds_recreate content joined present
      rw [rows, rows, select, select, archives, sameHolds]
    apply Upholds.of_eq
    rw [evaluate, evaluate, sameRefusal, sameRows]

end Evaluating

end Plan
end Gallery
