import Gallery.Plan.Compile
import Gallery.Store.Refusal

namespace Gallery

/-!
# Resolving tag filters

Excluded and optional tags are resolved before a plan is made: first to the tags
that match, then to the archives that carry one of them.  A tag matches by its
name or by its display name.  Without filters nothing is asked.
-/

namespace Query

/-- Whether a filter speaks of tags of a namespace. -/
def TagFilter.reaches (filter : TagFilter) (scope : String) : Bool :=
  isGeneric filter.scope || scope = filter.scope

/-- Whether a tag matches a filter on excluded or optional tags. -/
def TagFilter.matchesTag (filter : TagFilter) (tag : Listing.Tag) : Bool :=
  filter.reaches tag.scope &&
    (Text.like filter.pattern tag.name || Store.likeOption filter.pattern tag.displayName)

end Query

namespace Database

open Query (TagFilter)

/-- The ids of the tags that match a filter. -/
def matchingTags (database : Database) (filter : TagFilter) : Except Refusal (List Int64) :=
  match database.refusal? [.tags] with
  | some refusal => .error refusal
  | none =>
      let tags := database.store.tags
      if isLongPattern filter.pattern && tags.any (fun tag => filter.reaches tag.scope) then
        .error .longPattern
      else .ok ((tags.filter filter.matchesTag).map Listing.Tag.id)

/-- The archives that carry one of the tags with the given ids. -/
def carriers (database : Database) (tags : List Int64) : Except Refusal (List Int64) :=
  if tags.isEmpty then .ok []
  else
    match database.refusal? [.archiveTags] with
    | some refusal => .error refusal
    | none =>
        .ok (((database.store.links.filter fun link => tags.contains link.tag).map
          Store.Link.archive).eraseDups)

/-- The archives that carry a tag that matches one of the filters. -/
def archivesMatching (database : Database) (filters : List TagFilter) :
    Except Refusal (List Int64) := do
  let tags ← filters.mapM database.matchingTags
  database.carriers tags.flatten

end Database

end Gallery
