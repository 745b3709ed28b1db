import Gallery.Proofs.Query.Concatenation
import Gallery.Proofs.Search.Answer

namespace Gallery

/-!
# Queries as conjunctions

Two queries in one line find what both of them find.  Demands for which one
match is enough do not add up, so `Query.Apart` lets only one of the queries have
optional tags, sources, addresses or optional words, and it keeps their number
filters on different subjects.

What is found is one question, and whether the database answers is another.  The
line of both queries may join more tables than either of them, or nest deeper,
and then it is refused although both are answered.  No other refusal is new: a
row that is refused when it is tried against both was refused before.
-/

/-! ## Demands of both -/

theorem isEmpty_append {α : Type} (first second : List α) :
    (first ++ second).isEmpty = (first.isEmpty && second.isEmpty) := by
  cases first <;> rfl

/-- Of two lists of words those are kept that are kept of either. -/
theorem FullText.Match.kept_both (first second : Query.TitleWords) :
    kept (first.both second) = {
      required := (kept first).required ++ (kept second).required
      optional := (kept first).optional ++ (kept second).optional
      excluded := (kept first).excluded ++ (kept second).excluded } := by
  simp only [kept, Clauses.ofWords, Query.TitleWords.both, List.filterMap_append]

namespace Store

/-- Title words of two queries are demanded together. -/
theorem meetsTitle_both (store : Store) (archive : Int64) {first second : Query.TitleWords}
    (once : first.optional = [] ∨ second.optional = []) :
    store.meetsTitle archive (first.both second) =
      (store.meetsTitle archive first && store.meetsTitle archive second) := by
  have onceKept : (FullText.Match.kept first).optional = [] ∨
      (FullText.Match.kept second).optional = [] := by
    simp only [FullText.Match.kept, FullText.Clauses.ofWords]
    exact once.imp (fun none => by rw [none]; rfl) (fun none => by rw [none]; rfl)
  simp only [meetsTitle, FullText.Match.kept_both]
  generalize FullText.Match.kept first = left at onceKept ⊢
  generalize FullText.Match.kept second = right at onceKept ⊢
  cases store.indexRow? archive with
  | none =>
      simp only [isEmpty_append]
      ac_rfl
  | some row =>
      rcases onceKept with none_left | none_right
      · simp only [FullText.Clauses.holds, none_left, List.nil_append, List.all_append,
          List.any_append, List.isEmpty_nil, Bool.true_or, Bool.and_true, Bool.not_or]
        ac_rfl
      · simp only [FullText.Clauses.holds, none_right, List.append_nil, List.all_append,
          List.any_append, List.isEmpty_nil, Bool.true_or, Bool.and_true, Bool.not_or]
        ac_rfl

end Store

namespace Query

/-- Queries whose demands add up when they are put together. -/
structure Apart (first second : Query) : Prop where
  subjects : ∀ filter ∈ first.numbers, ∀ other ∈ second.numbers, filter.subject ≠ other.subject
  tags : (∀ filter ∈ first.tags, filter.role ≠ .optional) ∨
    ∀ filter ∈ second.tags, filter.role ≠ .optional
  sources : first.sources = [] ∨ second.sources = []
  urls : first.urls = [] ∨ second.urls = []
  words : first.title.optional = [] ∨ second.title.optional = []

/-- No number filter is lost between queries that are apart. -/
theorem Apart.numbers_both {first second : Query} (apart : first.Apart second) :
    (first.both second).numbers = first.numbers ++ second.numbers := by
  rw [both]
  refine congrArg (· ++ second.numbers) (List.filter_eq_self.mpr fun filter member => ?_)
  rw [Bool.not_eq_true', List.any_eq_false]
  intro other inSecond same
  exact apart.subjects filter member other inSecond (of_decide_eq_true same).symm

/-- One match is enough for both where only one of them asks. -/
private theorem exists_of_once {α : Type} {first second : List α} (meets : α → Prop)
    (once : first = [] ∨ second = []) :
    (first ++ second ≠ [] → ∃ item ∈ first ++ second, meets item) ↔
      (first ≠ [] → ∃ item ∈ first, meets item) ∧
        (second ≠ [] → ∃ item ∈ second, meets item) := by
  rcases once with rfl | rfl
  · simp only [List.nil_append, ne_eq, not_true_eq_false, false_implies, true_and]
  · simp only [List.append_nil, ne_eq, not_true_eq_false, false_implies, and_true]

private theorem optional_iff (tags : List TagFilter) (carried : TagFilter → Prop) :
    ((∃ filter ∈ tags, filter.role = .optional) →
      ∃ filter ∈ tags, filter.role = .optional ∧ carried filter) ↔
    (tags.filter (·.role = .optional) ≠ [] →
      ∃ filter ∈ tags.filter (·.role = .optional), carried filter) := by
  simp only [ne_eq, List.filter_eq_nil_iff, decide_eq_true_eq, not_forall, not_not, exists_prop,
    List.mem_filter, and_assoc]

theorem filter_optional_eq_nil {tags : List TagFilter}
    (none : ∀ filter ∈ tags, filter.role ≠ .optional) :
    tags.filter (fun filter => filter.role = .optional) = [] := by
  apply List.filter_eq_nil_iff.mpr
  intro filter member isOptional
  exact none filter member (of_decide_eq_true isOptional)

/-- Queries that are apart demand together what each of them demands. -/
theorem satisfiedBy_both_iff {first second : Query} (apart : first.Apart second) (store : Store)
    (archive : Store.Archive) :
    (first.both second).SatisfiedBy store archive ↔
      first.SatisfiedBy store archive ∧ second.SatisfiedBy store archive := by
  have optional := exists_of_once (fun filter : TagFilter =>
    store.carries archive.id filter.matchesTag = true)
      (apart.tags.imp filter_optional_eq_nil filter_optional_eq_nil)
  rw [← List.filter_append, ← optional_iff, ← optional_iff, ← optional_iff] at optional
  constructor
  · intro together
    have title := together.title
    rw [both, store.meetsTitle_both archive.id apart.words, Bool.and_eq_true] at title
    have required := List.forall_mem_append.mp together.required
    have excluded := List.forall_mem_append.mp together.excluded
    have languages := List.forall_mem_append.mp together.languages
    have sources := (exists_of_once _ apart.sources).mp together.sources
    have urls := (exists_of_once _ apart.urls).mp together.urls
    have numbers := together.numbers
    rw [apart.numbers_both, List.forall_mem_append] at numbers
    have either := optional.mp together.optional
    exact ⟨⟨required.1, excluded.1, either.1, title.1, languages.1, sources.1, urls.1, numbers.1⟩,
      ⟨required.2, excluded.2, either.2, title.2, languages.2, sources.2, urls.2, numbers.2⟩⟩
  · rintro ⟨left, right⟩
    refine {
      required := List.forall_mem_append.mpr ⟨left.required, right.required⟩
      excluded := List.forall_mem_append.mpr ⟨left.excluded, right.excluded⟩
      optional := optional.mpr ⟨left.optional, right.optional⟩
      title := ?_
      languages := List.forall_mem_append.mpr ⟨left.languages, right.languages⟩
      sources := (exists_of_once _ apart.sources).mpr ⟨left.sources, right.sources⟩
      urls := (exists_of_once _ apart.urls).mpr ⟨left.urls, right.urls⟩
      numbers := ?_ }
    · rw [both, store.meetsTitle_both archive.id apart.words, left.title, right.title, Bool.and_self]
    · rw [apart.numbers_both]
      exact List.forall_mem_append.mpr ⟨left.numbers, right.numbers⟩

end Query

end Gallery
