import Gallery.Plan.Basic
import Gallery.Search.Request

namespace Gallery

/-!
# Making a plan

A query, the archives to which its excluded and optional tags were resolved, the
request and the options of its caller become one plan.  Every demand turns into
a condition of its own, and every count into a condition on groups with the
joins that it needs.  The counts of namespaces are labelled in order, so no two
of them share a join.
-/

/-- The archives with excluded tags, and those with optional tags when there are
optional tags at all. -/
structure Resolution where
  excluded : List Int64 := []
  optional : Option (List Int64) := none
deriving DecidableEq, Repr

namespace Plan

/-- The list as a condition on it, unless it is empty. -/
def unlessEmpty {α : Type} (items : List α) (condition : List α → Condition) : List Condition :=
  if items.isEmpty then [] else [condition items]

/-- The conditions of the options and of the request. -/
def requestConditions (request : Search.Request) (options : Search.Options) : List Condition :=
  (if options.showHidden then [] else [.visible]) ++
    (options.allowIds.map Condition.idIn).toList ++
    (request.ids.map Condition.idIn).toList ++
    (if request.series then [.inSeries] else [])

/-- The conditions of the tags: one for each required tag, and the archives to
which the others were resolved. -/
def tagConditions (query : Query) (resolution : Resolution) : List Condition :=
  (query.tags.filter (·.role = .required)).map (fun tag => .hasTag tag.scope tag.pattern) ++
    unlessEmpty resolution.excluded .idNotIn ++
    (resolution.optional.map Condition.idIn).toList

/-- The conditions of the words, languages, sources and addresses. -/
def textConditions (query : Query) : List Condition :=
  (if query.title.isEmpty then [] else [.fullText query.title]) ++
    query.languages.map .language ++
    unlessEmpty query.sources .anySourceName ++
    unlessEmpty query.urls .anySourceUrl

/-- The condition of a number filter on a column. -/
def numberCondition? (filter : Query.NumberFilter) : Option Condition :=
  match filter.subject with
  | .pages => some (.compare .pages filter.comparison filter.value)
  | .size => some (.compare .size filter.comparison filter.value)
  | _ => none

/-- A count that a filter asks for, with the joins that it needs. -/
structure Count where
  joins : List CountJoin
  having : Having

/-- The label of a join on the tags of a namespace. -/
def label (number : Nat) : String :=
  "ns_" ++ String.ofList (Nat.toDigits 10 number)

/-- The counts of filters when the next namespace has the given number. -/
def countsFrom : Nat → List Query.NumberFilter → List Count
  | _, [] => []
  | number, filter :: rest =>
      match filter.subject with
      | .tagCount =>
          ⟨[.tags], ⟨.tags, filter.comparison, filter.value⟩⟩ :: countsFrom number rest
      | .sourceCount =>
          ⟨[.sources], ⟨.sources, filter.comparison, filter.value⟩⟩ :: countsFrom number rest
      | .namespaceCount name =>
          ⟨[.tags, .tagsIn (label number) name],
            ⟨.tagsIn (label number), filter.comparison, filter.value⟩⟩ ::
            countsFrom (number + 1) rest
      | _ => countsFrom number rest

/-- Adds a join unless it is there already. -/
def ensureJoin (joins : List CountJoin) (join : CountJoin) : List CountJoin :=
  if joins.contains join then joins else joins ++ [join]

/-- The plan for a search. -/
def ofQuery (query : Query) (resolution : Resolution) (request : Search.Request)
    (options : Search.Options) : Plan :=
  let counts := countsFrom 0 query.numbers
  {
    conditions := requestConditions request options ++ tagConditions query resolution ++
      textConditions query ++ query.numbers.filterMap numberCondition?
    joins := (counts.flatMap Count.joins).foldl ensureJoin []
    having := counts.map Count.having
    key := request.key
    direction := request.direction }

end Plan

end Gallery
