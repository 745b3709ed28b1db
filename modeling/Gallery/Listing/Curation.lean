import Gallery.Listing.Settings
import Gallery.Text.Collation

namespace Gallery
namespace Listing

/-!
# Curation of tags

The tags of an item are shown without the excluded ones, the heaviest first, and
among equally heavy ones by name, first without regard to case and then with it.
Tags that agree in all this keep their order.
-/

namespace Settings

/-- Whether a tag is hidden. -/
def hides (settings : Settings) (tag : Tag) : Bool :=
  settings.excludes.any fun rule => rule.covers tag

/-- The weight of a tag, which is zero when no rule speaks of it. -/
def weightOf (settings : Settings) (tag : Tag) : Int64 :=
  ((settings.weights.find? fun rule => rule.covers tag).map WeightRule.weight).getD 0

/-- The order in which two tags are shown. -/
def compareTags (settings : Settings) (a b : Tag) : Ordering :=
  (compare (settings.weightOf b).toInt (settings.weightOf a).toInt).then
    ((Text.compareChars (Text.lower a.name.toList) (Text.lower b.name.toList)).then
      (Text.compareText a.name b.name))

/-- The tags as they are shown. -/
def curate (settings : Settings) (tags : List Tag) : List Tag :=
  (tags.filter fun tag => !settings.hides tag).mergeSort fun a b =>
    (settings.compareTags a b).isLE

end Settings

end Listing
end Gallery
