import Gallery.Listing.Tag
import Gallery.Text.Lowercase

namespace Gallery
namespace Listing

/-!
# Rules for tags

A rule speaks of tags by their names, by their namespace or by both; a rule with
neither speaks of none.  Exclude rules hide tags, and weight rules move them to
the front.  The first weight rule that speaks of a tag decides.
-/

/-- The names of a rule, given as one name or as a list. -/
inductive TagNames where
  | one (name : String)
  | many (names : List String)
deriving DecidableEq, Repr

/-- The names as a list. -/
def TagNames.toList : TagNames → List String
  | .one name => [name]
  | .many names => names

/-- The tags of which a rule speaks.  Case can be ignored in names, but not in
namespaces. -/
structure TagRule where
  names : Option TagNames := none
  scope : Option String := none
  ignoreCase : Bool := false
deriving DecidableEq, Repr

/-- A rule that gives tags a weight. -/
structure WeightRule extends TagRule where
  weight : Int64
deriving DecidableEq, Repr

/-- Whether two names are the same, with or without regard to case. -/
def sameName (ignoreCase : Bool) (a b : String) : Bool :=
  if ignoreCase then Text.lower a.toList = Text.lower b.toList else a = b

/-- Whether a rule speaks of a tag. -/
def TagRule.covers (rule : TagRule) (tag : Tag) : Bool :=
  (rule.names.isSome || rule.scope.isSome) &&
    rule.scope.all (· = tag.scope) &&
    rule.names.all fun names => names.toList.any fun name => sameName rule.ignoreCase name tag.name

end Listing
end Gallery
