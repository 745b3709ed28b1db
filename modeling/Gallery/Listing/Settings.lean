import Gallery.Listing.Rule

namespace Gallery
namespace Listing

/-!
# Settings of a listing

The settings name the page limits that a request may choose from and the rules
for tags.  Built-in rules stand in front of the configured ones unless they are
switched off.
-/

/-- The settings of a listing. -/
structure Settings where
  pageLimits : List UInt64 := [24]
  defaultPageLimit : Option UInt64 := none
  tagWeight : List WeightRule := []
  tagExclude : List TagRule := []
  useDefaultTagWeight : Bool := true
  useDefaultTagExclude : Bool := true
deriving DecidableEq, Repr

/-- The built-in weight rules: the makers first, then what is parodied. -/
def builtInWeights : List WeightRule := [
  { scope := some "artist", weight := 1000 },
  { scope := some "circle", weight := 999 },
  { scope := some "parody", weight := 998 }]

/-- The built-in exclude rules: the parody of nothing, and where and by whom an
archive was published. -/
def builtInExcludes : List TagRule := [
  { names := some (.many ["original", "original work"]), scope := some "parody",
    ignoreCase := true },
  { scope := some "magazine" },
  { scope := some "event" },
  { scope := some "publisher" }]

namespace Settings

/-- The page limit of a request that names none of the listed ones. -/
def fallbackLimit (settings : Settings) : UInt64 :=
  match settings.defaultPageLimit with
  | some limit =>
      if settings.pageLimits.contains limit then limit else settings.pageLimits.headD 24
  | none => settings.pageLimits.headD 24

/-- The weight rules that apply. -/
def weights (settings : Settings) : List WeightRule :=
  (if settings.useDefaultTagWeight then builtInWeights else []) ++ settings.tagWeight

/-- The exclude rules that apply. -/
def excludes (settings : Settings) : List TagRule :=
  (if settings.useDefaultTagExclude then builtInExcludes else []) ++ settings.tagExclude

end Settings

end Listing
end Gallery
