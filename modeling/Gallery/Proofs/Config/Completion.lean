import Gallery.Config.File
import Gallery.Proofs.Json.Deletion
import Gallery.Proofs.Text.Utf8

namespace Gallery

open Json (Deletion bind_withDefault bind_required list?_prune list?_prune_of_unchanged
  option?_prune text?_prune bool?_prune int64?_prune uint64?_prune uint32?_prune uint16?_prune
  optionText?_prune optionUInt64?_prune)

/-!
# Saved configurations

A configuration that has been saved is loaded as it was, and a file from which fields
have been deleted is completed by the defaults of the structures that they belong to.
The two are one statement about the records of the configuration, proved for each of
them: the record that is left is read as the structure with its defaults.

What the defaults are is said once, in the structures.  The reader names some of them
again at single fields, and the proofs show that both mean the same.
-/

namespace Listing

/-! ## Rules -/

/-- An exclude rule with defaults for the fields that are deleted. -/
def TagRule.withDefaults (deletion : Deletion) (rule : TagRule) : TagRule :=
  let standard : TagRule := {}
  { names := deletion.complete "name" standard.names rule.names
    scope := deletion.complete "namespace" standard.scope rule.scope
    ignoreCase := deletion.complete "ignore_case" standard.ignoreCase rule.ignoreCase }

/-- A weight rule with defaults for the fields that are deleted; its weight has none. -/
def WeightRule.withDefaults (deletion : Deletion) (rule : WeightRule) : WeightRule :=
  { rule.toTagRule.withDefaults deletion with weight := rule.weight }

theorem TagNames.ofJson?_prune (deletion : Deletion) (names : TagNames) :
    TagNames.ofJson? (names.toJson.prune deletion) = some names := by
  cases names with
  | one name => rfl
  | many names =>
      have read : Json.list? Json.text? ((Json.list .string names).prune deletion) = some names :=
        list?_prune_of_unchanged text?_prune names
      have asList (items : List Json) : TagNames.ofJson? (.array items) =
          (Json.list? Json.text? (.array items)).map .many := rfl
      unfold toJson Json.list at *
      rw [Json.prune_array] at *
      rw [asList, read]
      rfl

theorem optionTagNames?_prune (deletion : Deletion) (names : Option TagNames) :
    Json.option? TagNames.ofJson? ((Json.option TagNames.toJson names).prune deletion) =
      some names := by
  apply option?_prune (TagNames.ofJson?_prune deletion)
  intro names isNull
  cases names <;> cases isNull

theorem TagRule.ofJson?_prune (deletion : Deletion) (rule : TagRule) :
    TagRule.ofJson? (rule.toJson.prune deletion) = some (rule.withDefaults deletion) := by
  unfold TagRule.ofJson? TagRule.toJson
  rw [Json.Record.bind_ofJson? deletion (by rfl) (by decide)]
  simp only [Deletion.field_read, String.reduceEq, if_true, if_false]
  rw [bind_withDefault (optionTagNames?_prune _ rule.names),
    bind_withDefault (optionText?_prune _ rule.scope),
    bind_withDefault (bool?_prune _ rule.ignoreCase)]
  rfl

theorem WeightRule.ofJson?_prune (deletion : Deletion) (weighted : deletion.drops "weight" = false)
    (rule : WeightRule) :
    WeightRule.ofJson? (rule.toJson.prune deletion) = some (rule.withDefaults deletion) := by
  unfold WeightRule.ofJson? WeightRule.toJson
  rw [Json.Record.bind_ofJson? deletion (by rfl) (by decide)]
  simp only [Deletion.field_read, String.reduceEq, if_true, if_false]
  rw [bind_withDefault (optionTagNames?_prune _ rule.names),
    bind_withDefault (optionText?_prune _ rule.scope),
    bind_required weighted (int64?_prune _ rule.weight),
    bind_withDefault (bool?_prune _ rule.ignoreCase)]
  rfl

/-! ## Settings -/

/-- The settings of a listing with defaults for the fields that are deleted. -/
def Settings.withDefaults (deletion : Deletion) (settings : Settings) : Settings :=
  let standard : Settings := {}
  let weights := deletion.below (.field "tag_weight")
  let excludes := deletion.below (.field "tag_exclude")
  { pageLimits := deletion.complete "page_limits" standard.pageLimits settings.pageLimits
    defaultPageLimit := deletion.complete "default_page_limit" standard.defaultPageLimit
      settings.defaultPageLimit
    tagWeight := deletion.complete "tag_weight" standard.tagWeight
      (settings.tagWeight.mapIdx fun index rule => rule.withDefaults (weights.below (.item index)))
    tagExclude := deletion.complete "tag_exclude" standard.tagExclude
      (settings.tagExclude.mapIdx fun index rule =>
        rule.withDefaults (excludes.below (.item index)))
    useDefaultTagWeight := deletion.complete "use_default_tag_weight"
      standard.useDefaultTagWeight settings.useDefaultTagWeight
    useDefaultTagExclude := deletion.complete "use_default_tag_exclude"
      standard.useDefaultTagExclude settings.useDefaultTagExclude }

theorem Settings.ofJson?_prune (deletion : Deletion)
    (weighted : ∀ index, deletion [.field "tag_weight", .item index, .field "weight"] = false)
    (settings : Settings) :
    Settings.ofJson? (settings.toJson.prune deletion) = some (settings.withDefaults deletion) := by
  have weights (index : Nat) := WeightRule.ofJson?_prune
    ((deletion.below (.field "tag_weight")).below (.item index)) (weighted index)
  unfold Settings.ofJson? Settings.toJson
  rw [Json.Record.bind_ofJson? deletion (by rfl) (by decide)]
  simp only [Deletion.field_read, String.reduceEq, if_true, if_false]
  rw [bind_withDefault (list?_prune_of_unchanged uint64?_prune settings.pageLimits),
    bind_withDefault (optionUInt64?_prune _ settings.defaultPageLimit),
    bind_withDefault (list?_prune weights settings.tagWeight),
    bind_withDefault (list?_prune (fun _ => TagRule.ofJson?_prune _) settings.tagExclude),
    bind_withDefault (bool?_prune _ settings.useDefaultTagWeight),
    bind_withDefault (bool?_prune _ settings.useDefaultTagExclude)]
  rfl

end Listing

namespace Config

/-! ## The parts of a configuration -/

/-- Where the server listens, with defaults for the fields that are deleted. -/
def Server.withDefaults (deletion : Deletion) (server : Server) : Server :=
  let standard : Server := {}
  { host := deletion.complete "host" standard.host server.host
    port := deletion.complete "port" standard.port server.port }

/-- Which database is opened, with defaults for the fields that are deleted. -/
def Database.withDefaults (deletion : Deletion) (database : Database) : Database :=
  let standard : Database := {}
  { vendor := deletion.complete "vendor" standard.vendor database.vendor
    dataDir := deletion.complete "data_dir" standard.dataDir database.dataDir
    dbFile := deletion.complete "db_file" standard.dbFile database.dbFile
    url := deletion.complete "url" standard.url database.url
    maxConnections := deletion.complete "max_connections" standard.maxConnections
      database.maxConnections }

/-- How the site lists its archives, with defaults for the fields that are deleted. -/
def Site.withDefaults (deletion : Deletion) (site : Site) : Site :=
  let standard : Site := {}
  { defaultSort := deletion.complete "default_sort" standard.defaultSort site.defaultSort
    defaultOrder := deletion.complete "default_order" standard.defaultOrder site.defaultOrder
    listing := deletion.complete "gallery_listing" standard.listing
      (site.listing.withDefaults (deletion.below (.field "gallery_listing"))) }

/-- A configuration with defaults for the fields that are deleted. -/
def withDefaults (deletion : Deletion) (config : Config) : Config :=
  let standard : Config := {}
  { server := deletion.complete "server" standard.server
      (config.server.withDefaults (deletion.below (.field "server")))
    database := deletion.complete "database" standard.database
      (config.database.withDefaults (deletion.below (.field "database")))
    site := deletion.complete "site" standard.site
      (config.site.withDefaults (deletion.below (.field "site"))) }

theorem vendor?_prune (deletion : Deletion) (vendor : Vendor) :
    Json.unit? Vendor.ofName? ((Json.string vendor.name).prune deletion) = some vendor := by
  cases vendor <;> rfl

theorem sortKey?_prune (deletion : Deletion) (key : Search.SortKey) :
    Json.unit? Search.SortKey.ofName? ((Json.string key.name).prune deletion) = some key := by
  cases key <;> rfl

theorem direction?_prune (deletion : Deletion) (direction : Search.Direction) :
    Json.unit? Search.Direction.ofName? ((Json.string direction.name).prune deletion) =
      some direction := by
  cases direction <;> rfl

theorem Server.ofJson?_prune (deletion : Deletion) (server : Server) :
    Server.ofJson? (server.toJson.prune deletion) = some (server.withDefaults deletion) := by
  unfold Server.ofJson? Server.toJson
  rw [Json.Record.bind_ofJson? deletion (by rfl) (by decide)]
  simp only [Deletion.field_read, String.reduceEq, if_true, if_false]
  rw [bind_withDefault (text?_prune _ server.host), bind_withDefault (uint16?_prune _ server.port)]
  rfl

theorem Database.ofJson?_prune (deletion : Deletion) (database : Database) :
    Database.ofJson? (database.toJson.prune deletion) = some (database.withDefaults deletion) := by
  unfold Database.ofJson? Database.toJson
  rw [Json.Record.bind_ofJson? deletion (by rfl) (by decide)]
  simp only [Deletion.field_read, String.reduceEq, if_true, if_false]
  rw [bind_withDefault (vendor?_prune _ database.vendor),
    bind_withDefault (text?_prune _ database.dataDir),
    bind_withDefault (text?_prune _ database.dbFile),
    bind_withDefault (optionText?_prune _ database.url),
    bind_withDefault (uint32?_prune _ database.maxConnections)]
  rfl

theorem Site.ofJson?_prune (deletion : Deletion)
    (weighted : ∀ index, deletion [.field "gallery_listing", .field "tag_weight", .item index,
      .field "weight"] = false) (site : Site) :
    Site.ofJson? (site.toJson.prune deletion) = some (site.withDefaults deletion) := by
  have listing := Listing.Settings.ofJson?_prune (deletion.below (.field "gallery_listing"))
    weighted site.listing
  unfold Site.ofJson? Site.toJson
  rw [Json.Record.bind_ofJson? deletion (by rfl) (by decide)]
  simp only [Deletion.field_read, String.reduceEq, if_true, if_false]
  rw [bind_withDefault (sortKey?_prune _ site.defaultSort),
    bind_withDefault (direction?_prune _ site.defaultOrder), bind_withDefault listing]
  rfl

/-! ## Configurations -/

/-- Whether a deletion leaves every weight rule its weight. -/
def KeepsWeights (deletion : Deletion) : Prop :=
  ∀ index, deletion [.field "site", .field "gallery_listing", .field "tag_weight", .item index,
    .field "weight"] = false

theorem ofJson?_prune (deletion : Deletion) (weighted : KeepsWeights deletion) (config : Config) :
    ofJson? (config.toJson.prune deletion) = some (config.withDefaults deletion) := by
  have site := Site.ofJson?_prune (deletion.below (.field "site")) weighted config.site
  unfold ofJson? toJson
  rw [Json.Record.bind_ofJson? deletion (by rfl) (by decide)]
  simp only [Deletion.field_read, String.reduceEq, if_true, if_false]
  rw [bind_withDefault (Server.ofJson?_prune _ config.server),
    bind_withDefault (Database.ofJson?_prune _ config.database), bind_withDefault site]
  rfl

/-- Where nothing is deleted, no default is needed. -/
theorem withDefaults_none (config : Config) : config.withDefaults .none = config := by
  have weights : (config.site.listing.tagWeight.mapIdx fun _ rule => rule.withDefaults .none) =
      config.site.listing.tagWeight := Json.mapIdx_eq_self fun _ _ _ => rfl
  have excludes : (config.site.listing.tagExclude.mapIdx fun _ rule => rule.withDefaults .none) =
      config.site.listing.tagExclude := Json.mapIdx_eq_self fun _ _ _ => rfl
  have listing : config.site.listing.withDefaults .none = config.site.listing := by
    calc config.site.listing.withDefaults .none
        = { config.site.listing with
            tagWeight := config.site.listing.tagWeight.mapIdx fun _ rule => rule.withDefaults .none
            tagExclude := config.site.listing.tagExclude.mapIdx fun _ rule =>
              rule.withDefaults .none } := rfl
      _ = config.site.listing := by rw [weights, excludes]
  calc config.withDefaults .none
      = { config with site := { config.site with
            listing := config.site.listing.withDefaults .none } } := rfl
    _ = config := by rw [listing]

/-! ## Files -/

theorem proper_toJson (config : Config) : Json.Proper config.toJson := by
  have names (names : Listing.TagNames) : Json.Proper names.toJson := by
    cases names with
    | one name => exact .string name
    | many names => exact .list .string names
  have exclude (rule : Listing.TagRule) : Json.Proper rule.toJson :=
    .record ⟨.option names _, .option .string _, .bool _⟩
  have weight (rule : Listing.WeightRule) : Json.Proper rule.toJson :=
    .record ⟨.option names _, .option .string _, .integer _, .bool _⟩
  have listing : Json.Proper config.site.listing.toJson :=
    .record ⟨.list (fun _ => .integer _) _, .option (fun _ => .integer _) _, .list weight _,
      .list exclude _, .bool _, .bool _⟩
  have server : Json.Proper config.server.toJson := .record ⟨.string _, .integer _⟩
  have database : Json.Proper config.database.toJson :=
    .record ⟨.string _, .string _, .string _, .option .string _, .integer _⟩
  have site : Json.Proper config.site.toJson := .record ⟨.string _, .string _, listing⟩
  exact .record ⟨server, database, site⟩

/-- A file is loaded if its text can be read. -/
theorem load_encode {text : String} {config : Config} (reads : read? text = some config) :
    load (some (Text.Utf8.encode text.toList)) =
      .ok { config := config, file := Text.Utf8.encode text.toList } := by
  unfold load
  simp only [Text.Utf8.decode?_encode, String.ofList_toList, reads]

/-- What has been saved is loaded again and saved in the same way.  A file from which
fields have been deleted, however it is laid out, is loaded with their defaults. -/
theorem saved_configurations_are_loaded (config : Config) :
    load (some config.saved) = .ok { config := config, file := config.saved } ∧
      (read? config.text).map text = some config.text ∧
      ∀ deletion, KeepsWeights deletion →
        Json.read? (config.toJson.prune deletion).toPretty.toList =
            some (config.toJson.prune deletion) ∧
          ∀ written : String, Json.read? written.toList = some (config.toJson.prune deletion) →
            load (some (Text.Utf8.encode written.toList)) =
              .ok { config := config.withDefaults deletion,
                    file := Text.Utf8.encode written.toList } := by
  have whole : read? config.text = some config := by
    have decoded := ofJson?_prune .none (fun _ => rfl) config
    rw [Json.prune_none, withDefaults_none] at decoded
    unfold read? text
    rw [Json.read?_toPretty (proper_toJson config), Option.bind_some, decoded]
  have loaded := load_encode whole
  rw [← saved] at loaded
  refine ⟨loaded, by rw [whole, Option.map_some], ?_⟩
  intro deletion weighted
  refine ⟨Json.read?_toPretty (Json.proper_prune (proper_toJson config) deletion), ?_⟩
  intro written reads
  apply load_encode
  unfold read?
  rw [reads, Option.bind_some, ofJson?_prune deletion weighted config]

/-- A configuration with a port and a rule of its own. -/
def ruled : Config where
  server := { host := "::1", port := 8080 }
  site := {
    defaultSort := .title
    listing := { tagWeight := [{ scope := some "artist", weight := 5 }] } }

/-- Takes out the database, the port and what the first rule is about. -/
def someFields : Deletion := fun path =>
  path ∈ [[.field "database"], [.field "server", .field "port"],
    [.field "site", .field "gallery_listing", .field "tag_weight", .item 0, .field "namespace"]]

/-- The port and the first rule of the loaded configuration are the defaults. -/
theorem ruled_is_completed :
    KeepsWeights someFields ∧
      load (some (Text.Utf8.encode (ruled.toJson.prune someFields).toPretty.toList)) =
        .ok {
          config := {
            server := { host := "::1" }
            site := { defaultSort := .title, listing := { tagWeight := [{ weight := 5 }] } } }
          file := Text.Utf8.encode (ruled.toJson.prune someFields).toPretty.toList } := by
  have weighted : KeepsWeights someFields := by
    intro index
    simp [someFields]
  obtain ⟨reads, loads⟩ := (saved_configurations_are_loaded ruled).2.2 someFields weighted
  refine ⟨weighted, ?_⟩
  have completed : ruled.withDefaults someFields = {
      server := { host := "::1" }
      site := { defaultSort := .title, listing := { tagWeight := [{ weight := 5 }] } } } := by
    decide +kernel
  rw [loads _ reads, completed]

end Config
end Gallery
