import Gallery.Proofs.Text.Entries
import Gallery.Search.Request

namespace Gallery

open Text (Collected DenotesInteger DenotesNatural Padded Separated)

/-!
# What parameters ask for

Each field of a request comes from one parameter.  Either the parameter is there and
gives a value, or the field falls back to what the site has for it.  `Search.GivenOr`
says this once for all of them, so that a field is described by what its texts mean.

The paging of a search relies on what follows: pages are counted from one, and no
parameter can lift the limit of a page unless the site offers that.
-/

namespace Listing

/-- The page limit that the settings fall back to: the default one if it is listed, otherwise the
first of the list, and 24 where none is listed. -/
inductive Settings.FallsBackTo (settings : Settings) (limit : UInt64) : Prop where
  | default : settings.defaultPageLimit = some limit → limit ∈ settings.pageLimits →
      settings.FallsBackTo limit
  | first {later} : (∀ listed ∈ settings.pageLimits, settings.defaultPageLimit ≠ some listed) →
      settings.pageLimits = limit :: later → settings.FallsBackTo limit
  | unlisted : settings.pageLimits = [] → limit = 24 → settings.FallsBackTo limit

theorem Settings.fallsBackTo_fallbackLimit (settings : Settings) :
    settings.FallsBackTo settings.fallbackLimit := by
  have firstListed : (∀ listed ∈ settings.pageLimits, settings.defaultPageLimit ≠ some listed) →
      settings.FallsBackTo (settings.pageLimits.headD 24) := by
    intro notDefault
    cases limits : settings.pageLimits with
    | nil => exact .unlisted limits rfl
    | cons limit later => exact .first notDefault limits
  rw [fallbackLimit]
  split
  · rename_i limit isDefault
    split
    · rename_i listed
      exact .default isDefault (List.contains_iff_mem.mp listed)
    · rename_i unlisted
      refine firstListed fun other member same => unlisted ?_
      rw [isDefault, Option.some.injEq] at same
      exact List.contains_iff_mem.mpr (same ▸ member)
  · rename_i noDefault
    refine firstListed fun other _ same => ?_
    rw [noDefault] at same
    cases same

end Listing

namespace Search

/-- The value that a parameter gives, or the fallback where it is missing or gives none. -/
inductive GivenOr {α : Type} (params : List (String × String)) (name : String)
    (Gives : String → α → Prop) (fallback : α) : α → Prop where
  | given {text value} : params.lookup name = some text → Gives text value →
      GivenOr params name Gives fallback value
  | fallback : (∀ text, params.lookup name = some text → ∀ value, ¬ Gives text value) →
      GivenOr params name Gives fallback fallback

theorem GivenOr.of_reads {α : Type} {params : List (String × String)} {name : String}
    {Gives : String → α → Prop} {fallback : α} {read : String → Option α}
    (reads : ∀ text value, read text = some value ↔ Gives text value) :
    GivenOr params name Gives fallback (((params.lookup name).bind read).getD fallback) := by
  cases found : params.lookup name with
  | none =>
      refine .fallback fun text isText => ?_
      rw [found] at isText
      cases isText
  | some text =>
      rw [Option.bind_some]
      cases isRead : read text with
      | some value => exact .given found ((reads text value).mp isRead)
      | none =>
          refine .fallback fun other isText value gives => ?_
          rw [found, Option.some.injEq] at isText
          rw [← isText, ← reads, isRead] at gives
          cases gives

/-- A field that may be missing has no fallback of its own. -/
theorem GivenOr.of_optional {α : Type} {params : List (String × String)} {name : String}
    {Gives : String → Option α → Prop} {read : String → Option α}
    (reads : ∀ text value, Gives text value ↔ ∃ item, read text = some item ∧ value = some item) :
    GivenOr params name Gives none ((params.lookup name).bind read) := by
  have same : (params.lookup name).bind read =
      ((params.lookup name).bind fun text => (read text).map some).getD none := by
    cases params.lookup name with
    | none => rfl
    | some text =>
        rw [Option.bind_some, Option.bind_some]
        cases read text <;> rfl
  rw [same]
  refine .of_reads fun text value => ?_
  rw [reads, Option.map_eq_some_iff]
  simp only [eq_comm]

/-! ## What the texts of parameters mean -/

theorem SortKey.parse?_eq_some_iff {text : String} {key : SortKey} :
    SortKey.parse? text = some key ↔ normalize text = key.name := by
  have named : ∀ key : SortKey, SortKey.ofName? key.name = some key := by
    intro key
    cases key <;> decide
  constructor
  · intro found
    have isName := List.find?_some found
    exact (of_decide_eq_true isName).symm
  · intro isName
    rw [parse?, isName, named]

theorem Direction.parse?_eq_some_iff {text : String} {direction : Direction} :
    Direction.parse? text = some direction ↔ normalize text = direction.name := by
  have named : ∀ direction : Direction, Direction.ofName? direction.name = some direction := by
    intro direction
    cases direction <;> decide
  constructor
  · intro found
    have isName := List.find?_some found
    exact (of_decide_eq_true isName).symm
  · intro isName
    rw [parse?, isName, named]

/-- The ids that a text lists: it has commas between its entries, and an entry counts if it is the
numeral of a signed 64-bit number, blanks around it apart. -/
def ListsIds (text : List Char) (ids : List Int64) : Prop :=
  ∃ entries, Separated ',' entries text ∧
    Collected (fun entry (id : Int64) =>
      ∃ numeral, Padded entry numeral ∧ DenotesInteger numeral id.toInt) entries ids

theorem Request.readIds_eq_iff {text : String} {ids : List Int64} :
    Request.readIds text = ids ↔ ListsIds text.toList ids := by
  rw [readIds, Text.filterMap_eq_iff_collected fun _ _ => Text.readInt64_trim_iff]
  constructor
  · exact fun collected => ⟨_, Text.separated_split ',' text.toList, collected⟩
  · rintro ⟨entries, separated, collected⟩
    rwa [separated.split_eq]

/-! ## Requests out of parameters -/

/-- A request that asks for what the parameters ask for, and otherwise for what the site has. -/
structure Request.IsReadFrom (request : Request) (params : List (String × String))
    (site : Config.Site) : Prop where
  query : GivenOr params "q" (fun text query => query = text) "" request.query
  key : GivenOr params "sort" (fun text key => normalize text = key.name) site.defaultSort
    request.key
  direction : GivenOr params "order" (fun text direction => normalize text = direction.name)
    site.defaultOrder request.direction
  seed : GivenOr params "seed" (fun text seed => text ≠ "" ∧ seed = some text) none request.seed
  page : ∃ number : UInt64,
    GivenOr params "page" (fun text number => DenotesNatural text.toList number.toNat) 1 number ∧
      request.page = if number = 0 then 1 else number
  limit : ∃ fallback, site.listing.FallsBackTo fallback ∧
    GivenOr params "limit" (fun text limit =>
      DenotesNatural text.toList limit.toNat ∧ limit ∈ site.listing.pageLimits) fallback
      request.limit
  ids : GivenOr params "ids" (fun text ids =>
    ∃ listed, ListsIds text.toList listed ∧ listed ≠ [] ∧ ids = some listed) none request.ids
  series : GivenOr params "series" (fun _ inSeries => inSeries = true) false request.series

namespace Request

variable (params : List (String × String)) (site : Config.Site)

theorem seed_ofParams :
    GivenOr params "seed" (fun text seed => text ≠ "" ∧ seed = some text) none
      (ofParams params site).seed := by
  change GivenOr params "seed" _ none ((params.lookup "seed").filter (!·.isEmpty))
  rw [← Option.bind_guard]
  refine .of_optional fun text seed => ?_
  simp only [Option.guard_eq_some_iff, Bool.not_eq_true', String.isEmpty_eq_false_iff]
  constructor
  · rintro ⟨nonempty, rfl⟩
    exact ⟨text, ⟨rfl, nonempty⟩, rfl⟩
  · rintro ⟨_, ⟨rfl, nonempty⟩, rfl⟩
    exact ⟨nonempty, rfl⟩

theorem ids_ofParams :
    GivenOr params "ids" (fun text ids =>
      ∃ listed, ListsIds text.toList listed ∧ listed ≠ [] ∧ ids = some listed) none
      (ofParams params site).ids := by
  change GivenOr params "ids" _ none (((params.lookup "ids").map readIds).filter (!·.isEmpty))
  rw [← Option.bind_guard, Option.bind_map]
  refine .of_optional fun text ids => ?_
  simp only [Function.comp_apply, Option.guard_eq_some_iff, Bool.not_eq_true',
    List.isEmpty_eq_false_iff, ← readIds_eq_iff]
  constructor
  · rintro ⟨listed, lists, nonempty, rfl⟩
    exact ⟨listed, ⟨lists, lists ▸ nonempty⟩, rfl⟩
  · rintro ⟨listed, ⟨lists, nonempty⟩, rfl⟩
    exact ⟨listed, lists, lists ▸ nonempty, rfl⟩

theorem limit_ofParams :
    GivenOr params "limit" (fun text limit =>
      DenotesNatural text.toList limit.toNat ∧ limit ∈ site.listing.pageLimits)
      site.listing.fallbackLimit (ofParams params site).limit := by
  change GivenOr params "limit" _ site.listing.fallbackLimit
    ((((params.lookup "limit").bind fun text => Text.readUInt64 text.toList).filter
      site.listing.pageLimits.contains).getD site.listing.fallbackLimit)
  rw [← Option.bind_guard, Option.bind_assoc]
  refine .of_reads fun text limit => ?_
  rw [Option.bind_guard, Option.filter_eq_some_iff, Text.readUInt64_iff_denotes,
    List.contains_iff_mem]

theorem page_ofParams :
    ∃ number : UInt64,
      GivenOr params "page" (fun text number => DenotesNatural text.toList number.toNat) 1 number ∧
        (ofParams params site).page = if number = 0 then 1 else number := by
  refine ⟨_, .of_reads fun text number => Text.readUInt64_iff_denotes, ?_⟩
  change max _ 1 = _
  generalize ((params.lookup "page").bind fun text => Text.readUInt64 text.toList).getD 1 = number
  change (if number ≤ 1 then 1 else number) = _
  by_cases zero : number = 0
  · rw [zero]
    rfl
  · rw [if_neg zero]
    split
    · rename_i small
      have atMostOne : number.toNat ≤ 1 := UInt64.le_iff_toNat_le.mp small
      have positive : number.toNat ≠ 0 := fun none => zero (UInt64.toNat_inj.mp none)
      exact UInt64.toNat_inj.mp (Nat.le_antisymm (Nat.pos_of_ne_zero positive) atMostOne)
    · rfl

theorem isReadFrom_ofParams : (ofParams params site).IsReadFrom params site where
  query := by
    have same : (ofParams params site).query =
        ((params.lookup "q").bind some).getD "" := by
      change (params.lookup "q").getD "" = _
      cases params.lookup "q" <;> rfl
    rw [same]
    exact .of_reads fun text query => by rw [Option.some.injEq, eq_comm]
  key := .of_reads fun _ _ => SortKey.parse?_eq_some_iff
  direction := .of_reads fun _ _ => Direction.parse?_eq_some_iff
  seed := seed_ofParams params site
  page := page_ofParams params site
  limit := ⟨_, site.listing.fallsBackTo_fallbackLimit, limit_ofParams params site⟩
  ids := ids_ofParams params site
  series := by
    have same : (ofParams params site).series =
        ((params.lookup "series").bind fun _ => some true).getD false := by
      change (params.lookup "series").isSome = _
      cases params.lookup "series" <;> rfl
    rw [same]
    exact .of_reads fun text inSeries => by rw [Option.some.injEq, eq_comm]

variable {params site}

theorem IsReadFrom.page_pos {request : Request} (read : request.IsReadFrom params site) :
    0 < request.page.toNat := by
  rcases read.page with ⟨number, _, isPage⟩
  rw [isPage]
  split
  · decide
  · rename_i nonzero
    exact Nat.pos_of_ne_zero fun none => nonzero (UInt64.toNat_inj.mp none)

/-- A limit is one of those that are listed, if there is any. -/
theorem IsReadFrom.limit_listed {request : Request} (read : request.IsReadFrom params site) :
    request.limit ∈ site.listing.pageLimits ∨
      site.listing.pageLimits = [] ∧ request.limit = 24 := by
  rcases read.limit with ⟨fallback, fallsBack, limit⟩
  cases limit with
  | given _ gives => exact .inl gives.2
  | fallback _ =>
      cases fallsBack with
      | default _ listed => exact .inl listed
      | first _ limits => exact .inl (limits ▸ List.mem_cons_self)
      | unlisted none isLimit => exact .inr ⟨none, isLimit⟩

theorem IsReadFrom.ids_ne_nil {request : Request} (read : request.IsReadFrom params site) :
    request.ids ≠ some [] := by
  intro empty
  have ids := read.ids
  rw [empty] at ids
  cases ids with
  | given _ gives =>
      rcases gives with ⟨listed, _, nonempty, same⟩
      exact nonempty (Option.some.inj same).symm

theorem IsReadFrom.seed_ne_empty {request : Request} (read : request.IsReadFrom params site) :
    request.seed ≠ some "" := by
  intro empty
  have seed := read.seed
  rw [empty] at seed
  cases seed with
  | given _ gives => exact gives.1 (Option.some.inj gives.2).symm

/-- Only a site that lists it lets a request ask for all at once. -/
theorem IsReadFrom.listed_of_unlimited {request : Request} (read : request.IsReadFrom params site)
    (unlimited : request.limit = 0) : 0 ∈ site.listing.pageLimits := by
  rcases read.limit_listed with listed | ⟨_, isLimit⟩
  · exact unlimited ▸ listed
  · rw [unlimited] at isLimit
    exact absurd isLimit (by decide)

/-- All parameters make a request, and each of its fields is what its parameter gives or what the
site has for it.  Its pages are counted from one, its limit is one of those that the site lists,
if it lists any, and the ids and the seed are missing rather than empty.  So no parameters ask for
a page without a limit unless the site lists the limit zero. -/
theorem ofParams_is_normal (params : List (String × String)) (site : Config.Site) :
    (ofParams params site).IsReadFrom params site ∧
    0 < (ofParams params site).page.toNat ∧
    ((ofParams params site).limit ∈ site.listing.pageLimits ∨
      site.listing.pageLimits = [] ∧ (ofParams params site).limit = 24) ∧
    (ofParams params site).ids ≠ some [] ∧
    (ofParams params site).seed ≠ some "" ∧
    ((ofParams params site).limit = 0 → 0 ∈ site.listing.pageLimits) := by
  have read := isReadFrom_ofParams params site
  exact ⟨read, read.page_pos, read.limit_listed, read.ids_ne_nil, read.seed_ne_empty,
    read.listed_of_unlimited⟩

end Request
end Search
end Gallery
