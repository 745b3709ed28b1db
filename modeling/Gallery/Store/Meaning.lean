import Gallery.FullText.Expression
import Gallery.FullText.Fold
import Gallery.FullText.Match
import Gallery.Plan.Basic
import Gallery.Store.Basic
import Gallery.Text.Like

namespace Gallery

/-!
# What a plan asks of a store

A condition holds of an archive in a store or it does not; the counts of a plan
are taken separately for each archive.  The rows of a plan are the archives of
which everything holds, in the order of the plan.  Equal keys are told apart by
the time of creation and then by the id, so no two rows are equal in the order.
-/

namespace Store

/-- Whether a pattern matches a text that may be missing. -/
def likeOption (pattern : String) (text : Option String) : Bool :=
  text.any (Text.like pattern)

/-- Whether a tag matches a filter on required tags.  The display name counts
only for the generic scope. -/
def carriesMatch (scope pattern : String) (tag : Listing.Tag) : Bool :=
  if Query.isGeneric scope then Text.like pattern tag.name || likeOption pattern tag.displayName
  else Text.like pattern tag.name && tag.scope = scope

/-- Whether a link leads an archive to a tag that satisfies a condition. -/
def carries (store : Store) (archive : Int64) (wanted : Listing.Tag → Bool) : Bool :=
  store.links.any fun link =>
    link.archive = archive && store.tags.any fun tag => tag.id = link.tag && wanted tag

/-- Whether a phrase occurs in some text of an index row. -/
def IndexRow.contains (row : IndexRow) (phrase : List Char) : Bool :=
  FullText.phraseOccurs phrase row.title.toList ||
    FullText.phraseOccurs phrase row.description.toList ||
    FullText.phraseOccurs phrase row.tags.toList

/-- Whether an index row satisfies an expression.  An expression that cannot be
read is satisfied by no row. -/
def IndexRow.satisfies (row : IndexRow) (expression : String) : Bool :=
  match FullText.Expression.read? expression with
  | some tree => tree.holds row.contains
  | none => false

/-- Whether the index has a row of the archive that satisfies an expression. -/
def indexed (store : Store) (archive : Int64) (expression : String) : Bool :=
  store.index.any fun row => row.id = archive && row.satisfies expression

/-- Whether the index answers for an archive as title words demand. -/
def answersWords (store : Store) (archive : Int64) (words : Query.TitleWords) : Bool :=
  match FullText.Match.ofWords? words with
  | none => true
  | some (.matching expression) => store.indexed archive expression
  | some (.excluding expression) => !store.indexed archive expression

/-- The sources of an archive. -/
def sourcesOf (store : Store) (archive : Int64) : List Source :=
  store.sources.filter fun source => source.archive = archive

end Store

namespace Plan

open Store (Archive)

/-- The number in a column of an archive. -/
def Column.ofArchive (archive : Archive) : Column → Int64
  | .pages => archive.pages
  | .size => archive.size

/-- Whether a condition holds of an archive. -/
def Condition.holds (store : Store) (archive : Archive) : Condition → Bool
  | .hasTag scope pattern => store.carries archive.id (Store.carriesMatch scope pattern)
  | .idIn ids => ids.contains archive.id
  | .idNotIn ids => !ids.contains archive.id
  | .fullText words => store.answersWords archive.id words
  | .compare column comparison value =>
      comparison.holds (column.ofArchive archive).toInt value.toInt
  | .language pattern => Store.likeOption pattern archive.language
  | .anySourceName patterns =>
      patterns.any fun pattern =>
        (store.sourcesOf archive.id).any fun source => Text.like pattern source.name
  | .anySourceUrl texts =>
      texts.any fun text =>
        (store.sourcesOf archive.id).any fun source => Store.likeOption (urlPattern text) source.url
  | .inSeries => store.memberships.any fun member => member.archive = archive.id
  | .visible => archive.deletedAt.isNone

/-- The namespace whose tags the join with the given label reaches. -/
def scopeOf (joins : List CountJoin) (label : String) : Option String :=
  joins.findSome? fun join =>
    match join with
    | .tagsIn other scope => if other = label then some scope else none
    | _ => none

/-- The number of tags, of sources, or of tags of one namespace of an archive. -/
def Target.count (store : Store) (joins : List CountJoin) (archive : Int64) : Target → Nat
  | .tags => (store.links.filter fun link => link.archive = archive).length
  | .sources => (store.sourcesOf archive).length
  | .tagsIn label =>
      match scopeOf joins label with
      | none => 0
      | some scope =>
          (store.links.filter fun link =>
            link.archive = archive &&
              store.tags.any fun tag => tag.id = link.tag && tag.scope = scope).length

/-- Whether a condition on a count holds of an archive. -/
def Having.holds (store : Store) (joins : List CountJoin) (archive : Archive) (having : Having) :
    Bool :=
  having.comparison.holds (having.target.count store joins archive.id) having.value.toInt

/-- Whether everything in a plan holds of an archive. -/
def holds (plan : Plan) (store : Store) (archive : Archive) : Bool :=
  plan.conditions.all (fun condition => condition.holds store archive) &&
    plan.having.all fun having => having.holds store plan.joins archive

/-- The order of two missing or present texts, by which a missing one comes
last in both directions. -/
def compareDates (direction : Search.Direction) : Option String → Option String → Ordering
  | none, none => .eq
  | none, some _ => .gt
  | some _, none => .lt
  | some a, some b => direction.apply (Text.compareText a b)

/-- The order of two archives by the key alone. -/
def compareKeys (key : Search.SortKey) (direction : Search.Direction) (a b : Archive) :
    Ordering :=
  match key with
  | .title => direction.apply (Text.compareNoCase a.title b.title)
  | .pages => direction.apply (compare a.pages.toInt b.pages.toInt)
  | .createdAt => direction.apply (Text.compareText a.createdAt b.createdAt)
  | .random => direction.apply (Text.compareText a.createdAt b.createdAt)
  | .releasedAt => compareDates direction a.releasedAt b.releasedAt

/-- The order of two archives. -/
def compareArchives (key : Search.SortKey) (direction : Search.Direction) (a b : Archive) :
    Ordering :=
  (compareKeys key direction a b).then
    ((direction.apply (Text.compareText a.createdAt b.createdAt)).then
      (direction.apply (compare a.id.toInt b.id.toInt)))

/-- The archives that a plan selects, in its order. -/
def select (plan : Plan) (store : Store) : List Archive :=
  (store.archives.filter (plan.holds store)).mergeSort fun a b =>
    (compareArchives plan.key plan.direction a b).isLE

/-- The rows of a plan: ids with titles. -/
def rows (plan : Plan) (store : Store) : List (Int64 × String) :=
  (plan.select store).map fun archive => (archive.id, archive.title)

end Plan

end Gallery
