import Gallery.Listing.Curation
import Gallery.Proofs.Listing.StableSort
import Gallery.Proofs.Text.Order

namespace Gallery
namespace Listing

open Std (TransCmp)
open Text (Precedes lower transCmp_on transCmp_then)

/-!
# Tags as they are shown

What a rule speaks of is a condition on tags, and the settings are read through it:
an exclude rule counts wherever it stands, but of the weight rules only the first that
speaks of a tag.  The tags that are left are sorted by a comparison that is a total
preorder, and the sort is stable.  Curating twice is therefore curating once, and a
further exclude rule takes its tags away and moves no other.
-/

/-! ## What rules speak of -/

/-- A rule speaks of a tag if it gives a name or a namespace at all, if the tag is in its namespace, where it names
one, and if the tag has one of its names, where it gives some. -/
structure TagRule.SpeaksOf (rule : TagRule) (tag : Tag) : Prop where
  limits : rule.names ≠ none ∨ rule.scope ≠ none
  scope : ∀ scope, rule.scope = some scope → tag.scope = scope
  name : ∀ names, rule.names = some names → ∃ name ∈ names.toList,
    tag.name = name ∨ rule.ignoreCase = true ∧ lower tag.name.toList = lower name.toList

theorem sameName_iff {ignoreCase : Bool} {name other : String} :
    sameName ignoreCase name other = true ↔
      other = name ∨ ignoreCase = true ∧ lower other.toList = lower name.toList := by
  cases ignoreCase with
  | false => simp [sameName, eq_comm]
  | true =>
      simp only [sameName, if_true, decide_eq_true_eq, true_and]
      constructor
      · exact fun same => .inr same.symm
      · rintro (rfl | same)
        · rfl
        · exact same.symm

theorem TagRule.covers_iff {rule : TagRule} {tag : Tag} :
    rule.covers tag = true ↔ rule.SpeaksOf tag := by
  rw [covers, Bool.and_eq_true, Bool.and_eq_true, Bool.or_eq_true, Option.isSome_iff_ne_none,
    Option.isSome_iff_ne_none, Option.all_eq_true, Option.all_eq_true]
  simp only [List.any_eq_true, sameName_iff, decide_eq_true_eq, @eq_comm _ _ tag.scope]
  exact ⟨fun ⟨⟨limits, scope⟩, name⟩ => ⟨limits, scope, name⟩,
    fun speaks => ⟨⟨speaks.limits, speaks.scope⟩, speaks.name⟩⟩

/-- No rule of a list speaks of the tag. -/
def Spared (rules : List TagRule) (tag : Tag) : Prop :=
  ∀ rule ∈ rules, ¬ rule.SpeaksOf tag

theorem any_covers_eq_false_iff {rules : List TagRule} {tag : Tag} :
    (rules.any fun rule => rule.covers tag) = false ↔ Spared rules tag := by
  simp only [List.any_eq_false, TagRule.covers_iff]
  rfl

instance (rules : List TagRule) : DecidablePred (Spared rules) := fun _ =>
  decidable_of_iff _ any_covers_eq_false_iff

theorem Spared.append_iff {rules others : List TagRule} {tag : Tag} :
    Spared (rules ++ others) tag ↔ Spared rules tag ∧ Spared others tag :=
  List.forall_mem_append

theorem Spared.of_perm {rules others : List TagRule} (same : rules.Perm others) {tag : Tag} :
    Spared rules tag ↔ Spared others tag :=
  forall_congr' fun _ => imp_congr_left same.mem_iff

namespace Settings

/-- The weight of a tag: that of the first weight rule that speaks of it, and zero if there is
none. -/
def HasWeight (settings : Settings) (tag : Tag) (weight : Int64) : Prop :=
  (∃ before rule after, settings.weights = before ++ rule :: after ∧
    (∀ earlier ∈ before, ¬ earlier.SpeaksOf tag) ∧ rule.SpeaksOf tag ∧ rule.weight = weight) ∨
  (∀ rule ∈ settings.weights, ¬ rule.SpeaksOf tag) ∧ weight = 0

theorem hasWeight_weightOf (settings : Settings) (tag : Tag) :
    settings.HasWeight tag (settings.weightOf tag) := by
  rw [weightOf]
  cases found : settings.weights.find? fun rule => rule.covers tag with
  | none =>
      refine .inr ⟨fun rule member speaks => ?_, rfl⟩
      exact List.find?_eq_none.mp found rule member (TagRule.covers_iff.mpr speaks)
  | some rule =>
      rcases List.find?_eq_some_iff_append.mp found with ⟨covers, before, after, parts, earlier⟩
      refine .inl ⟨before, rule, after, parts, fun other member speaks => ?_,
        TagRule.covers_iff.mp covers, rfl⟩
      have uncovered := earlier other member
      rw [TagRule.covers_iff.mpr speaks] at uncovered
      cases uncovered

/-! ## The order of tags -/

/-- The order in which two tags may be shown: the heavier one first, then by the names in
lowercase, and then by the names. -/
def InOrder (settings : Settings) (a b : Tag) : Prop :=
  (settings.weightOf b).toInt < (settings.weightOf a).toInt ∨
  settings.weightOf a = settings.weightOf b ∧
    (Precedes (lower a.name.toList) (lower b.name.toList) ∨
      lower a.name.toList = lower b.name.toList ∧
        (Precedes a.name.toList b.name.toList ∨ a.name = b.name))

instance (settings : Settings) : TransCmp settings.compareTags := by
  have weight := transCmp_on (fun m n : Int => compare n m) fun tag : Tag =>
    (settings.weightOf tag).toInt
  have folded := transCmp_on Text.compareChars fun tag : Tag => lower tag.name.toList
  have name := transCmp_on Text.compareText Tag.name
  have named := transCmp_then
    (fun a b : Tag => Text.compareChars (lower a.name.toList) (lower b.name.toList))
    fun a b => Text.compareText a.name b.name
  exact transCmp_then _ _

theorem isLE_compareTags_iff {settings : Settings} {a b : Tag} :
    (settings.compareTags a b).isLE = true ↔ settings.InOrder a b := by
  rw [compareTags, Ordering.isLE_then_iff_or, Ordering.isLE_then_iff_or,
    Ordering.isLE_iff_eq_lt_or_eq_eq, Text.compareText_eq_eq_iff, Text.compareChars_eq_eq_iff,
    Std.LawfulEqOrd.compare_eq_iff_eq, Int64.toInt_inj, Text.compareChars_eq_lt_iff,
    Text.compareText, Text.compareChars_eq_lt_iff, compare_lt_iff_lt]
  exact or_congr_right (and_congr_left' eq_comm)

/-- Tags of one weight and one name are not put in any order. -/
theorem compareTags_of_same {settings : Settings} {a b : Tag}
    (weight : settings.weightOf a = settings.weightOf b) (name : a.name = b.name) :
    settings.compareTags a b = .eq := by
  rw [compareTags, Ordering.then_eq_eq, Ordering.then_eq_eq, Text.compareText_eq_eq_iff,
    Text.compareChars_eq_eq_iff, Std.LawfulEqOrd.compare_eq_iff_eq, weight, name]
  exact ⟨rfl, rfl, rfl⟩

/-- The order of tags is a matter of the weight rules alone. -/
theorem compareTags_of_weights {settings other : Settings}
    (weights : other.weights = settings.weights) : other.compareTags = settings.compareTags := by
  have sameWeights : other.weightOf = settings.weightOf := by
    funext tag
    rw [weightOf, weightOf, weights]
  funext a b
  rw [compareTags, compareTags, sameWeights]

/-! ## The tags that are shown -/

theorem curate_eq (settings : Settings) (tags : List Tag) :
    settings.curate tags = (tags.filter fun tag => Spared settings.excludes tag).mergeSort
      fun a b => (settings.compareTags a b).isLE := by
  have kept : (tags.filter fun tag => !settings.hides tag) =
      tags.filter fun tag => Spared settings.excludes tag := by
    refine List.filter_congr fun tag _ => ?_
    rw [hides, Bool.eq_iff_iff, Bool.not_eq_true', decide_eq_true_iff, any_covers_eq_false_iff]
  rw [curate, kept]

theorem curate_perm (settings : Settings) (tags : List Tag) :
    (settings.curate tags).Perm (tags.filter fun tag => Spared settings.excludes tag) := by
  rw [curate_eq]
  exact List.mergeSort_perm _ _

theorem spared_of_mem_curate {settings : Settings} {tags : List Tag} {tag : Tag}
    (member : tag ∈ settings.curate tags) : Spared settings.excludes tag :=
  of_decide_eq_true (List.mem_filter.mp ((settings.curate_perm tags).mem_iff.mp member)).2

theorem pairwise_curate (settings : Settings) (tags : List Tag) :
    (settings.curate tags).Pairwise fun a b => (settings.compareTags a b).isLE = true :=
  pairwise_mergeSort_isLE settings.compareTags _

/-- What has been curated is left as it is. -/
theorem curate_curate (settings : Settings) (tags : List Tag) :
    settings.curate (settings.curate tags) = settings.curate tags := by
  have kept : (settings.curate tags).filter (fun tag => Spared settings.excludes tag) =
      settings.curate tags :=
    List.filter_eq_self.mpr fun tag member => decide_eq_true (spared_of_mem_curate member)
  rw [settings.curate_eq (settings.curate tags), kept]
  exact List.mergeSort_of_pairwise (settings.pairwise_curate tags)

/-- Further exclude rules take the tags of which they speak out of what was shown. -/
theorem curate_of_more_excludes {settings other : Settings} {added : List TagRule}
    (weights : other.weights = settings.weights)
    (excludes : other.excludes.Perm (settings.excludes ++ added)) (tags : List Tag) :
    other.curate tags = (settings.curate tags).filter fun tag => Spared added tag := by
  have kept : (tags.filter fun tag => Spared other.excludes tag) =
      (tags.filter fun tag => Spared settings.excludes tag).filter
        fun tag => Spared added tag := by
    rw [List.filter_filter]
    refine List.filter_congr fun tag _ => ?_
    rw [Bool.eq_iff_iff, Bool.and_eq_true, decide_eq_true_iff, decide_eq_true_iff,
      decide_eq_true_iff, Spared.of_perm excludes, Spared.append_iff, and_comm]
  rw [curate_eq, curate_eq, filter_mergeSort, kept, compareTags_of_weights weights]

/-- Curated tags are those of which no exclude rule speaks, the heaviest first and then by name,
where the first weight rule that speaks of a tag gives its weight; tags of one weight and one name
stay as they came.  Curated tags are not changed by curating them again.  Exclude rules that are
added, in whatever places, remove the tags of which they speak and change nothing else. -/
theorem curated_tags_are_sorted (settings : Settings) (tags : List Tag) :
    (settings.curate tags).Perm (tags.filter fun tag => Spared settings.excludes tag) ∧
    (settings.curate tags).Pairwise settings.InOrder ∧
    (∀ tag, settings.HasWeight tag (settings.weightOf tag)) ∧
    (∀ weight name,
      (settings.curate tags).filter
          (fun tag => settings.weightOf tag = weight ∧ tag.name = name) =
        (tags.filter fun tag => Spared settings.excludes tag).filter
          fun tag => settings.weightOf tag = weight ∧ tag.name = name) ∧
    settings.curate (settings.curate tags) = settings.curate tags ∧
    ∀ (other : Settings) (added : List TagRule), other.weights = settings.weights →
      other.excludes.Perm (settings.excludes ++ added) →
      other.curate tags = (settings.curate tags).filter fun tag => Spared added tag := by
  refine ⟨settings.curate_perm tags, ?_, settings.hasWeight_weightOf, fun weight name => ?_,
    settings.curate_curate tags, fun other added weights excludes =>
      curate_of_more_excludes weights excludes tags⟩
  · exact (settings.pairwise_curate tags).imp isLE_compareTags_iff.mp
  · rw [curate_eq]
    refine filter_mergeSort_of_ties settings.compareTags (fun a b ofA ofB => ?_) _
    rcases of_decide_eq_true ofA with ⟨weightA, nameA⟩
    rcases of_decide_eq_true ofB with ⟨weightB, nameB⟩
    exact compareTags_of_same (weightA.trans weightB.symm) (nameA.trans nameB.symm)

/-- A rule in the middle of the configured ones hides a name in any namespace and in any case,
beside the built-in rules and the other two, and the tag that stays keeps its place. -/
theorem curated_tags_without_zebras :
    let before : Settings := { tagExclude := [{ scope := some "meta" }, { scope := some "rest" }] }
    let zebras : TagRule := { names := some (.many ["zebra", "okapi"]), ignoreCase := true }
    let after : Settings :=
      { tagExclude := [{ scope := some "meta" }, zebras, { scope := some "rest" }] }
    let tags : List Tag := [
      { id := 1, scope := "tag", name := "Zebra" }, { id := 2, scope := "artist", name := "jane" }]
    after.weights = before.weights ∧ after.excludes.Perm (before.excludes ++ [zebras]) ∧
      after.curate tags = (before.curate tags).filter fun tag => Spared [zebras] tag := by
  intro before zebras after tags
  have weights : after.weights = before.weights := rfl
  have excludes : after.excludes.Perm (before.excludes ++ [zebras]) := by
    decide
  exact ⟨weights, excludes,
    (curated_tags_are_sorted before tags).2.2.2.2.2 after [zebras] weights excludes⟩

end Settings
end Listing
end Gallery
