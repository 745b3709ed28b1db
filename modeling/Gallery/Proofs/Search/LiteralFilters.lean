import Gallery.Proofs.Search.Blacklist
import Gallery.Proofs.Search.Roles
import Gallery.Proofs.Text.Wildcards

namespace Gallery

/-!
# Filters that take a text as it is

A filter on sources asks for a name, one on addresses for a part of the address, and an
entry of a blacklist for the name of a tag.  None of them is offered as a pattern, but
all three are looked up by patterns, and the text is not changed for that.  So a percent
sign or an underscore in it stands for other characters.

What each filter finds is stated here by the pattern, which is always right, and by the
text itself, which is right exactly where no archive tells the two apart.  A literal
text is always taken as it is.
-/

namespace Text

/-- A text that stands for itself as a pattern. -/
structure Literal (text : String) : Prop where
  plain : Like.Plain text.toList
  nullFree : '\x00' ∉ text.toList

theorem Literal.like_eq {pattern text : String} (literal : Literal pattern)
    (nullFree : '\x00' ∉ text.toList) : like pattern text = equalUpToCase pattern text :=
  (like_eq_equalUpToCase_iff literal.nullFree).mpr literal.plain text nullFree

theorem Literal.like_urlPattern_eq {part text : String} (literal : Literal part)
    (nullFree : '\x00' ∉ text.toList) :
    like (Plan.urlPattern part) text = occursUpToCase part text :=
  (like_eq_occursUpToCase_iff literal.nullFree).mpr literal.plain text nullFree

end Text

namespace Store

/-! ## What is asked of an archive -/

/-- Whether an archive has a source whose name meets a condition. -/
def hasSourceName (store : Store) (meets : String → Bool) (id : Int64) : Bool :=
  (store.sourcesOf id).any fun source => meets source.name

/-- Whether an archive has a source whose address meets a condition. -/
def hasSourceUrl (store : Store) (meets : String → Bool) (id : Int64) : Bool :=
  (store.sourcesOf id).any fun source => source.url.any meets

/-- Whether an archive carries a tag of a namespace whose name, or the name shown for it,
meets a condition. -/
def carriesIn (store : Store) (scope : String) (meets : String → Bool) (id : Int64) : Bool :=
  store.carries id fun tag =>
    tag.scope = scope && (meets tag.name || tag.displayName.any meets)

/-- Whether no name of a source and no address ends early. -/
def SourcesNullFree (store : Store) : Prop :=
  ∀ source ∈ store.sources, '\x00' ∉ source.name.toList ∧ ∀ url ∈ source.url, '\x00' ∉ url.toList

instance (store : Store) : Decidable store.SourcesNullFree :=
  inferInstanceAs (Decidable (∀ source ∈ store.sources, '\x00' ∉ source.name.toList ∧
    ∀ url ∈ source.url, '\x00' ∉ url.toList))

/-- Whether no name of a tag ends early. -/
def TagsNullFree (store : Store) : Prop :=
  ∀ tag ∈ store.tags, '\x00' ∉ tag.name.toList ∧ ∀ shown ∈ tag.displayName, '\x00' ∉ shown.toList

instance (store : Store) : Decidable store.TagsNullFree :=
  inferInstanceAs (Decidable (∀ tag ∈ store.tags, '\x00' ∉ tag.name.toList ∧
    ∀ shown ∈ tag.displayName, '\x00' ∉ shown.toList))

/-- What is asked of the members of a list matters for the members only. -/
theorem any_eq_any_of_mem {α : Type} {items : List α} {first second : α → Bool}
    (same : ∀ item ∈ items, first item = second item) : items.any first = items.any second := by
  rw [Bool.eq_iff_iff, List.any_eq_true, List.any_eq_true]
  exact exists_congr fun item => and_congr_right fun member => by rw [same item member]

section Literal

variable {store : Store} {text : String} (literal : Text.Literal text)
include literal

theorem hasSourceName_like_eq (nullFree : store.SourcesNullFree) (id : Int64) :
    store.hasSourceName (Text.like text) id =
      store.hasSourceName (Text.equalUpToCase text) id := by
  apply any_eq_any_of_mem
  intro source member
  exact literal.like_eq (nullFree source (List.mem_filter.mp member).1).1

theorem hasSourceUrl_like_eq (nullFree : store.SourcesNullFree) (id : Int64) :
    store.hasSourceUrl (Text.like (Plan.urlPattern text)) id =
      store.hasSourceUrl (Text.occursUpToCase text) id := by
  apply any_eq_any_of_mem
  intro source member
  cases stored : source.url with
  | none => rfl
  | some url =>
      exact literal.like_urlPattern_eq
        ((nullFree source (List.mem_filter.mp member).1).2 url stored)

theorem carriesIn_like_eq (nullFree : store.TagsNullFree) (scope : String) (id : Int64) :
    store.carriesIn scope (Text.like text) id =
      store.carriesIn scope (Text.equalUpToCase text) id := by
  apply any_eq_any_of_mem
  intro link _
  refine congrArg _ (any_eq_any_of_mem fun tag member => congrArg _ ?_)
  have shown : tag.displayName.any (Text.like text) =
      tag.displayName.any (Text.equalUpToCase text) := by
    cases stored : tag.displayName with
    | none => rfl
    | some shown => exact literal.like_eq ((nullFree tag member).2 shown stored)
  simp only [literal.like_eq (nullFree tag member).1, shown]

end Literal

/-- An entry for a namespace bars the archives with a tag there that matches its name. -/
theorem barred_singleton {entry scope name : String} (store : Store)
    (read : Query.TagFilter.ofBlacklistEntry? entry = some ⟨scope, name, .excluded⟩)
    (named : Query.isGeneric scope = false) (id : Int64) :
    store.barred [entry] id = store.carriesIn scope (Text.like name) id := by
  rw [barred, List.filterMap_cons_some read, List.filterMap_nil, List.any_cons, List.any_nil,
    Bool.or_false, carriesIn]
  refine congrArg (store.carries id) (funext fun tag => ?_)
  rw [Query.TagFilter.matchesTag, Query.TagFilter.reaches, named, Bool.false_or, likeOption]

end Store

namespace Query

variable {store : Store} {archive : Store.Archive}

theorem satisfiedBy_source_iff {name : String} :
    ({ sources := [name] } : Query).SatisfiedBy store archive ↔
      store.hasSourceName (Text.like name) archive.id = true := by
  rw [Store.hasSourceName, List.any_eq_true]
  constructor
  · intro satisfied
    rcases satisfied.sources (List.cons_ne_nil _ _) with ⟨pattern, member, found⟩
    exact List.mem_singleton.mp member ▸ found
  · intro found
    exact { (satisfiedBy_empty : ({} : Query).SatisfiedBy store archive) with
      sources := fun _ => ⟨name, List.mem_cons_self, found⟩ }

theorem satisfiedBy_url_iff {text : String} :
    ({ urls := [text] } : Query).SatisfiedBy store archive ↔
      store.hasSourceUrl (Text.like (Plan.urlPattern text)) archive.id = true := by
  rw [Store.hasSourceUrl, List.any_eq_true]
  constructor
  · intro satisfied
    rcases satisfied.urls (List.cons_ne_nil _ _) with ⟨pattern, member, found⟩
    exact List.mem_singleton.mp member ▸ found
  · intro found
    exact { (satisfiedBy_empty : ({} : Query).SatisfiedBy store archive) with
      urls := fun _ => ⟨text, List.mem_cons_self, found⟩ }

end Query

namespace Search

open Query (TagFilter)
open Store (Archive)

variable {database : Database} {request : Request} {options : Options}

/-! ## What a filter finds -/

/-- Whether an answer has, of the archives in question, exactly those that meet a condition. -/
def Keeps (found : Result) (inQuestion : Int64 → Prop) (meets : Int64 → Bool) : Prop :=
  ∀ id, id ∈ found.ids ↔ inQuestion id ∧ meets id = true

/-- Two conditions describe one answer exactly if no archive in question tells them apart. -/
theorem Keeps.iff_of {found : Result} {inQuestion : Int64 → Prop} {first second : Int64 → Bool}
    (keeps : Keeps found inQuestion first) :
    Keeps found inQuestion second ↔ ∀ id, inQuestion id → first id = second id := by
  constructor
  · intro keepsToo id asked
    rw [Bool.eq_iff_iff]
    exact and_congr_right_iff.mp ((keeps id).symm.trans (keepsToo id)) asked
  · intro same id
    rw [keeps id]
    exact and_congr_right fun asked => by rw [same id asked]

/-- The archives that a search admits, whatever its query is. -/
def Admitted (request : Request) (options : Options) (store : Store) (id : Int64) : Prop :=
  ∃ archive ∈ store.archives, archive.id = id ∧ Admits request options store archive

/-- Whether no pattern of a blacklist is too long. -/
def ShortBlacklist (options : Options) : Prop :=
  ∀ filter ∈ options.blacklist.filterMap TagFilter.ofBlacklistEntry?,
    isLongPattern filter.pattern = false

/-- A query for sources and addresses alone stays within the limits. -/
theorem withinLimits_of_sources {query : String} {sources urls : List String} (store : Store)
    (read : Query.parse query = { sources := sources, urls := urls })
    (few : sources.length + urls.length ≤ 800)
    (shortSources : ∀ pattern ∈ sources, isLongPattern pattern = false)
    (shortUrls : ∀ text ∈ urls, isLongPattern (Plan.urlPattern text) = false)
    (shortEntries : ShortBlacklist options) :
    WithinLimits store (request.withQuery query) options := by
  have parsed : Query.parse (request.withQuery query).query =
      { sources := sources, urls := urls } := read
  refine {
    fits := fits_planOf (by rw [parsed]; exact Nat.zero_le 62) ?_
    tags := fun filter member => ?_
    languages := by rw [parsed]; exact List.forall_mem_nil _
    sources := by rw [parsed]; exact shortSources
    urls := by rw [parsed]; exact shortUrls
    title := by rw [parsed]; exact List.forall_mem_nil _ }
  · rw [parsed]
    change 0 + 0 + sources.length + urls.length ≤ 800
    omega
  · rcases mem_queryOf_tags.mp member with inQuery | ⟨entry, inBlacklist, entryRead⟩
    · rw [parsed] at inQuery
      cases inQuery
    · exact shortEntries filter (List.mem_filterMap.mpr ⟨entry, inBlacklist, entryRead⟩)

/-- A query with one demand finds what meets it. -/
theorem keeps_of_satisfiedBy {query : String} {parsed : Query} {meets : Int64 → Bool}
    {found : Result} {site : Config.Site} (present : database.missing = [])
    (keyed : database.store.Keyed) (whole : options.skipPagination = true)
    (read : Query.parse query = parsed)
    (demand : ∀ {archive : Archive}, parsed.SatisfiedBy database.store archive ↔
      meets archive.id = true)
    (answered : (Engine.mk (.sqlite database) site).search (request.withQuery query) options =
      .ok found) :
    Keeps found (Admitted request options database.store) meets := by
  rcases exists_listing_of_search whole answered with ⟨ids, listed, rfl⟩
  intro id
  rw [mem_listing_iff present keyed listed]
  simp only [wants_withQuery_iff, read, demand]
  constructor
  · rintro ⟨archive, member, rfl, admitted, met⟩
    exact ⟨⟨archive, member, rfl, admitted⟩, met⟩
  · rintro ⟨⟨archive, member, rfl, admitted⟩, met⟩
    exact ⟨archive, member, rfl, admitted, met⟩

/-- A further entry takes out of an answer what it bars, whatever the order of the answer. -/
theorem keeps_unbarred {entries further : List String} {every found : Result}
    {site : Config.Site} (present : database.missing = []) (keyed : database.store.Keyed)
    (whole : options.skipPagination = true)
    (answered : (Engine.mk (.sqlite database) site).search request
      (options.withBlacklist entries) = .ok every)
    (answeredLonger : (Engine.mk (.sqlite database) site).search request
      (options.withBlacklist (entries ++ further)) = .ok found) :
    Keeps found (· ∈ every.ids) fun id => !database.store.barred further id := by
  have wholeShorter : (options.withBlacklist entries).skipPagination = true := whole
  have wholeLonger : (options.withBlacklist (entries ++ further)).skipPagination = true := whole
  rcases exists_listing_of_search wholeShorter answered with ⟨ids, listed, rfl⟩
  rcases exists_listing_of_search wholeLonger answeredLonger with ⟨longer, listedLonger, rfl⟩
  have wants : ∀ archive : Archive,
      Wants request (options.withBlacklist (entries ++ further)) database.store archive ↔
        Wants request (options.withBlacklist entries) database.store archive ∧
          database.store.barred further archive.id = false := by
    intro archive
    rw [Store.barred_eq_false_iff]
    constructor
    · rintro ⟨⟨visible, allowed, listed, inSeries, unlisted⟩, satisfied⟩
      exact ⟨⟨⟨visible, allowed, listed, inSeries, fun entry member =>
        unlisted entry (List.mem_append_left _ member)⟩, satisfied⟩, fun entry member =>
        unlisted entry (List.mem_append_right _ member)⟩
    · rintro ⟨⟨⟨visible, allowed, listed, inSeries, unlisted⟩, satisfied⟩, further⟩
      refine ⟨⟨visible, allowed, listed, inSeries, fun entry member => ?_⟩, satisfied⟩
      exact (List.mem_append.mp member).elim (unlisted entry) (further entry)
  intro id
  change id ∈ longer ↔ id ∈ ids ∧ (!database.store.barred further id) = true
  rw [mem_listing_iff present keyed listed, mem_listing_iff present keyed listedLonger,
    Bool.not_eq_true']
  simp only [wants]
  constructor
  · rintro ⟨archive, member, rfl, wanted, unbarred⟩
    exact ⟨⟨archive, member, rfl, wanted⟩, unbarred⟩
  · rintro ⟨⟨archive, member, rfl, wanted⟩, unbarred⟩
    exact ⟨archive, member, rfl, wanted, unbarred⟩

/-- Where the archives that a pattern finds are known, so is when they are those of the text. -/
theorem Keeps.literally {found : Result} {inQuestion : Int64 → Prop} {byPattern byText : Int64 → Bool}
    {literal : Prop} (keeps : Keeps found inQuestion byPattern)
    (same : literal → ∀ id, byPattern id = byText id) :
    Keeps found inQuestion byPattern ∧
      (Keeps found inQuestion byText ↔ ∀ id, inQuestion id → byPattern id = byText id) ∧
      (literal → Keeps found inQuestion byText) :=
  ⟨keeps, keeps.iff_of, fun isLiteral => keeps.iff_of.mpr fun id _ => same isLiteral id⟩

/-- Three filters take a text for a pattern: one on the names of sources, one on their
addresses, and an entry of a blacklist for a namespace.  They take it as it is exactly if
no archive in question tells the pattern and the text apart, and always if it is literal
and nothing stored ends early. -/
theorem filters_are_literal_iff {database : Database} (site : Config.Site) (request : Request)
    (options : Options) (present : database.missing = []) (keyed : database.store.Keyed)
    (whole : options.skipPagination = true) :
    (∀ query name, Query.parse query = { sources := [name] } → isLongPattern name = false →
      ShortBlacklist options →
      ∃ found, (Engine.mk (.sqlite database) site).search (request.withQuery query) options =
          .ok found ∧
        Keeps found (Admitted request options database.store)
          (database.store.hasSourceName (Text.like name)) ∧
        (Keeps found (Admitted request options database.store)
            (database.store.hasSourceName (Text.equalUpToCase name)) ↔
          ∀ id, Admitted request options database.store id →
            database.store.hasSourceName (Text.like name) id =
              database.store.hasSourceName (Text.equalUpToCase name) id) ∧
        (Text.Literal name ∧ database.store.SourcesNullFree →
          Keeps found (Admitted request options database.store)
            (database.store.hasSourceName (Text.equalUpToCase name)))) ∧
    (∀ query text, Query.parse query = { urls := [text] } →
      isLongPattern (Plan.urlPattern text) = false → ShortBlacklist options →
      ∃ found, (Engine.mk (.sqlite database) site).search (request.withQuery query) options =
          .ok found ∧
        Keeps found (Admitted request options database.store)
          (database.store.hasSourceUrl (Text.like (Plan.urlPattern text))) ∧
        (Keeps found (Admitted request options database.store)
            (database.store.hasSourceUrl (Text.occursUpToCase text)) ↔
          ∀ id, Admitted request options database.store id →
            database.store.hasSourceUrl (Text.like (Plan.urlPattern text)) id =
              database.store.hasSourceUrl (Text.occursUpToCase text) id) ∧
        (Text.Literal text ∧ database.store.SourcesNullFree →
          Keeps found (Admitted request options database.store)
            (database.store.hasSourceUrl (Text.occursUpToCase text)))) ∧
    ∀ entries entry scope name every, Text.trim entry.toList = scope ++ ':' :: name →
      ':' ∉ scope → scope ≠ [] → name ≠ [] → Query.isGeneric (String.ofList scope) = false →
      isLongPattern (String.ofList name) = false →
      (Engine.mk (.sqlite database) site).search request (options.withBlacklist entries) =
        .ok every →
      (∃ found, (Engine.mk (.sqlite database) site).search request
          (options.withBlacklist (entries ++ [entry])) = .ok found ∧
        Keeps found (· ∈ every.ids)
          (fun id => !database.store.carriesIn (String.ofList scope)
            (Text.like (String.ofList name)) id) ∧
        (Keeps found (· ∈ every.ids)
            (fun id => !database.store.carriesIn (String.ofList scope)
              (Text.equalUpToCase (String.ofList name)) id) ↔
          ∀ id, id ∈ every.ids →
            (!database.store.carriesIn (String.ofList scope) (Text.like (String.ofList name)) id) =
              !database.store.carriesIn (String.ofList scope)
                (Text.equalUpToCase (String.ofList name)) id) ∧
        (Text.Literal (String.ofList name) ∧ database.store.TagsNullFree →
          Keeps found (· ∈ every.ids)
            fun id => !database.store.carriesIn (String.ofList scope)
              (Text.equalUpToCase (String.ofList name)) id)) ∨
      (Engine.mk (.sqlite database) site).search request
          (options.withBlacklist (entries ++ [entry])) = .error (.backend .tooDeep) ∧
        nestingLimit < (planOf database.store request
          (options.withBlacklist (entries ++ [entry]))).nesting := by
  refine ⟨fun query name read short shortEntries => ?_, fun query text read short shortEntries => ?_,
    fun entries entry scope name every written colonFree hasScope hasName named short answered => ?_⟩
  · have within : WithinLimits database.store (request.withQuery query) options :=
      withinLimits_of_sources database.store read (Nat.le_of_ble_eq_true rfl)
        (fun pattern member => List.mem_singleton.mp member ▸ short) (List.forall_mem_nil _)
        shortEntries
    rcases exists_search present within site with ⟨found, answered⟩
    have keeps := keeps_of_satisfiedBy present keyed whole read Query.satisfiedBy_source_iff answered
    exact ⟨found, answered, keeps.literally fun literal id =>
      Store.hasSourceName_like_eq literal.1 literal.2 id⟩
  · have within : WithinLimits database.store (request.withQuery query) options :=
      withinLimits_of_sources database.store read (Nat.le_of_ble_eq_true rfl)
        (List.forall_mem_nil _) (fun other member => List.mem_singleton.mp member ▸ short)
        shortEntries
    rcases exists_search present within site with ⟨found, answered⟩
    have keeps := keeps_of_satisfiedBy present keyed whole read Query.satisfiedBy_url_iff answered
    exact ⟨found, answered, keeps.literally fun literal id =>
      Store.hasSourceUrl_like_eq literal.1 literal.2 id⟩
  · have read := TagFilter.ofBlacklistEntry?_scoped written colonFree hasScope hasName
    have wholeShorter : (options.withBlacklist entries).skipPagination = true := whole
    rcases exists_listing_of_search wholeShorter answered with ⟨ids, listed, rfl⟩
    rcases Engine.exists_listing_append present site listed with
        ⟨longer, listedLonger⟩ | ⟨_, filter, member, long⟩ | ⟨refused, deep⟩
    · left
      have answeredLonger := Engine.search_eq_listing (Engine.mk (.sqlite database) site) request
        (options.withBlacklist (entries ++ [entry]))
      rw [listedLonger] at answeredLonger
      have keeps := keeps_unbarred present keyed whole answered answeredLonger
      simp only [Store.barred_singleton database.store read named] at keeps
      exact ⟨_, answeredLonger, keeps.literally fun literal id =>
        congrArg Bool.not (Store.carriesIn_like_eq literal.1 literal.2 _ id)⟩
    · rw [List.filterMap_cons_some read, List.filterMap_nil, List.mem_singleton] at member
      rw [member, short] at long
      cases long
    · rw [Engine.search_eq_listing, refused]
      exact Or.inr ⟨rfl, deep⟩

/-- The gallery with one archive, which has a source. -/
def sourcedArchive : Database :=
  (Database.oneArchive.run (.insertSource 1 "abc" (some "http://[::1]/abc"))).2

theorem keyed_sourcedArchive : sourcedArchive.store.Keyed :=
  (Database.Reachable.edited (.insertSource 1 "abc" (some "http://[::1]/abc"))
    Database.reachable_oneArchive trivial).keyed

/-- Literal texts find the archive by its source and its address, and take it out by its
tag, whatever the case of their letters. -/
theorem sourcedArchive_by_literal_texts :
    sourcedArchive.missing = [] ∧ sourcedArchive.store.Keyed ∧
      (∃ found, (Engine.mk (.sqlite sourcedArchive) {}).search (Request.withQuery {} "source:ABC")
          { skipPagination := true } = .ok found ∧
        Keeps found (Admitted {} { skipPagination := true } sourcedArchive.store)
          (sourcedArchive.store.hasSourceName (Text.equalUpToCase "ABC"))) ∧
      (∃ found, (Engine.mk (.sqlite sourcedArchive) {}).search (Request.withQuery {} "url:[::1]/A")
          { skipPagination := true } = .ok found ∧
        Keeps found (Admitted {} { skipPagination := true } sourcedArchive.store)
          (sourcedArchive.store.hasSourceUrl (Text.occursUpToCase "[::1]/A"))) ∧
      ∃ every found, (Engine.mk (.sqlite sourcedArchive) {}).search {}
          (Options.withBlacklist { skipPagination := true } []) = .ok every ∧
        (Engine.mk (.sqlite sourcedArchive) {}).search {}
          (Options.withBlacklist { skipPagination := true } ([] ++ ["artist:FOO"])) = .ok found ∧
        Keeps found (· ∈ every.ids) fun id =>
          !sourcedArchive.store.carriesIn (String.ofList "artist".toList)
            (Text.equalUpToCase (String.ofList "FOO".toList)) id := by
  have present : sourcedArchive.missing = [] := rfl
  have keyed := keyed_sourcedArchive
  have filters := filters_are_literal_iff {} {} { skipPagination := true } present keyed rfl
  have unlisted : ShortBlacklist { skipPagination := true } := List.forall_mem_nil _
  have sources : sourcedArchive.store.SourcesNullFree := by decide +kernel
  have tags : sourcedArchive.store.TagsNullFree := by decide +kernel
  refine ⟨present, keyed, ?_, ?_, ?_⟩
  · rcases filters.1 "source:ABC" "ABC" (by decide +kernel) (by decide +kernel) unlisted with
      ⟨found, answered, _, _, literally⟩
    exact ⟨found, answered, literally ⟨⟨by decide +kernel, by decide +kernel⟩, sources⟩⟩
  · rcases filters.2.1 "url:[::1]/A" "[::1]/A" (by decide +kernel) (by decide +kernel) unlisted with
      ⟨found, answered, _, _, literally⟩
    exact ⟨found, answered, literally ⟨⟨by decide +kernel, by decide +kernel⟩, sources⟩⟩
  · have every : (Engine.mk (.sqlite sourcedArchive) {}).search {}
        (Options.withBlacklist { skipPagination := true } []) = .ok ⟨[1], 1⟩ := by decide +kernel
    have answered : (Engine.mk (.sqlite sourcedArchive) {}).search {}
        (Options.withBlacklist { skipPagination := true } ([] ++ ["artist:FOO"])) = .ok ⟨[], 0⟩ := by
      decide +kernel
    rcases filters.2.2 [] "artist:FOO" "artist".toList "FOO".toList _ (by decide +kernel) (by decide)
        (by decide) (by decide) (by decide +kernel) (by decide +kernel) every with
        ⟨found, answeredToo, _, _, literally⟩ | ⟨refused, _⟩
    · exact ⟨_, found, every, answeredToo,
        literally ⟨⟨by decide +kernel, by decide +kernel⟩, tags⟩⟩
    · cases refused.symm.trans answered

/-- With an underscore none of the filters takes its text as it is: the archive is found
by a name and an address that it has not, and taken out by a tag that it does not carry. -/
theorem sourcedArchive_by_wildcards :
    sourcedArchive.missing = [] ∧ sourcedArchive.store.Keyed ∧
      (Query.parse "source:a_c" = { sources := ["a_c"] } ∧
        (Engine.mk (.sqlite sourcedArchive) {}).search (Request.withQuery {} "source:a_c")
          { skipPagination := true } = .ok ⟨[1], 1⟩ ∧
        ¬ Keeps ⟨[1], 1⟩ (Admitted {} { skipPagination := true } sourcedArchive.store)
          (sourcedArchive.store.hasSourceName (Text.equalUpToCase "a_c"))) ∧
      (Query.parse "url:[::1]/a_c" = { urls := ["[::1]/a_c"] } ∧
        (Engine.mk (.sqlite sourcedArchive) {}).search (Request.withQuery {} "url:[::1]/a_c")
          { skipPagination := true } = .ok ⟨[1], 1⟩ ∧
        ¬ Keeps ⟨[1], 1⟩ (Admitted {} { skipPagination := true } sourcedArchive.store)
          (sourcedArchive.store.hasSourceUrl (Text.occursUpToCase "[::1]/a_c"))) ∧
      ((Engine.mk (.sqlite sourcedArchive) {}).search {}
          (Options.withBlacklist { skipPagination := true } []) = .ok ⟨[1], 1⟩ ∧
        (Engine.mk (.sqlite sourcedArchive) {}).search {}
          (Options.withBlacklist { skipPagination := true } ["artist:j_ne"]) = .ok ⟨[], 0⟩ ∧
        ¬ Keeps ⟨[], 0⟩ (· ∈ [1]) fun id =>
          !sourcedArchive.store.carriesIn "artist" (Text.equalUpToCase "j_ne") id) := by
  refine ⟨rfl, keyed_sourcedArchive,
    ⟨by decide +kernel, by decide +kernel, fun keeps => ?_⟩,
    ⟨by decide +kernel, by decide +kernel, fun keeps => ?_⟩,
    ⟨by decide +kernel, by decide +kernel, fun keeps => ?_⟩⟩
  · exact absurd ((keeps 1).mp List.mem_cons_self).2 (by decide +kernel)
  · exact absurd ((keeps 1).mp List.mem_cons_self).2 (by decide +kernel)
  · have unbarred : (!sourcedArchive.store.carriesIn "artist" (Text.equalUpToCase "j_ne") 1) =
        true := by decide +kernel
    cases (keeps 1).mpr ⟨List.mem_cons_self, unbarred⟩

end Search
end Gallery
