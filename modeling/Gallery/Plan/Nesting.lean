import Gallery.Plan.Statement

namespace Gallery
namespace Plan

/-!
# The nesting of a statement

A database reads the conditions of a statement as one tree, in which `AND` and
`OR` group to the left, so every further condition makes the tree higher.  The
conditions of joins hang on the same tree after all others.  A question to
another table is read while the whole tree around it is still open, so its own
height comes on top.
-/

/-- The height of a chain of parts that are grouped to the left. -/
def chainHeight : List Nat → Nat
  | [] => 0
  | first :: rest => rest.foldl (fun height part => max height part + 1) first

/-- The height of the condition that an id stands in a list.  An empty list is
written as a comparison of two numbers.  A list of one id is read as a comparison
with that id, in which a sign is a part of its own. -/
def idListHeight : List Int64 → Nat
  | [] => 2
  | [id] => if id < 0 then 4 else 3
  | _ :: _ :: _ => 3

/-- The height of a condition, if it is written at all. -/
def Condition.height? : Condition → Option Nat
  | .hasTag _ _ => some 6
  | .idIn ids => some (idListHeight ids)
  | .idNotIn ids => some (if ids.isEmpty then 2 else idListHeight ids + 1)
  | .fullText words =>
      (FullText.Match.ofWords? words).map fun condition =>
        match condition with
        | .matching _ => 3
        | .excluding _ => 4
  | .anySourceName patterns => some (chainHeight (patterns.map fun _ => 5))
  | .anySourceUrl texts => some (chainHeight (texts.map fun _ => 5))
  | .inSeries => some 4
  | .compare _ _ _ | .language _ | .visible => some 3

/-- The height of the question that a condition asks of other tables. -/
def Condition.innerHeight : Condition → Nat
  | .hasTag _ _ => 6
  | .fullText words => if (FullText.Match.ofWords? words).isSome then 2 else 0
  | .anySourceName _ | .anySourceUrl _ => 4
  | .inSeries => 3
  | _ => 0

/-- The height of the condition of a join. -/
def CountJoin.height : CountJoin → Nat
  | .tags | .sources => 3
  | .tagsIn _ _ => 4

/-- The height of the tree of all conditions on rows. -/
def treeHeight (plan : Plan) : Nat :=
  chainHeight (plan.conditions.filterMap Condition.height? ++
    (orderedJoins plan.joins).map CountJoin.height)

/-- How deep the statement of a plan nests: on rows or on groups. -/
def nesting (plan : Plan) : Nat :=
  max (plan.treeHeight + (plan.conditions.map Condition.innerHeight).foldl max 0)
    (chainHeight (plan.having.map fun _ => 4))

end Plan
end Gallery
