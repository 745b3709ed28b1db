import Gallery.Config.Basic
import Gallery.Json.Reader
import Gallery.Json.Record

namespace Gallery

/-!
# Reading and writing the configuration

Every part of the configuration is a record of which any field may be missing,
in which case its default stands; only a weight rule has to name its weight.
Writing spells out every field, so what is read back needs no defaults.
-/

namespace Listing

/-- Writes the names of a rule in the form in which they were given. -/
def TagNames.toJson : TagNames → Json
  | .one name => .string name
  | .many names => Json.list .string names

/-- Reads the names of a rule: a name or a list of names. -/
def TagNames.ofJson? : Json → Option TagNames
  | .string name => some (.one name)
  | .array names => (names.mapM Json.text?).map .many
  | _ => none

/-- Writes an exclude rule. -/
def TagRule.toJson (rule : TagRule) : Json :=
  .record [
    ("name", Json.option TagNames.toJson rule.names),
    ("namespace", Json.option .string rule.scope),
    ("ignore_case", .bool rule.ignoreCase)]

/-- Reads an exclude rule. -/
def TagRule.ofJson? (value : Json) : Option TagRule := do
  let record ← Json.Record.ofJson? ["name", "namespace", "ignore_case"] value
  return {
    names := ← (record.field "name").withDefault none (Json.option? TagNames.ofJson?)
    scope := ← (record.field "namespace").withDefault none (Json.option? Json.text?)
    ignoreCase := ← (record.field "ignore_case").withDefault false Json.bool? }

/-- Writes a weight rule. -/
def WeightRule.toJson (rule : WeightRule) : Json :=
  .record [
    ("name", Json.option TagNames.toJson rule.names),
    ("namespace", Json.option .string rule.scope),
    ("weight", .int64 rule.weight),
    ("ignore_case", .bool rule.ignoreCase)]

/-- Reads a weight rule. -/
def WeightRule.ofJson? (value : Json) : Option WeightRule := do
  let record ← Json.Record.ofJson? ["name", "namespace", "weight", "ignore_case"] value
  return {
    names := ← (record.field "name").withDefault none (Json.option? TagNames.ofJson?)
    scope := ← (record.field "namespace").withDefault none (Json.option? Json.text?)
    weight := ← (record.field "weight").required Json.int64?
    ignoreCase := ← (record.field "ignore_case").withDefault false Json.bool? }

/-- Writes the settings of a listing. -/
def Settings.toJson (settings : Settings) : Json :=
  .record [
    ("page_limits", Json.list .uint64 settings.pageLimits),
    ("default_page_limit", Json.option .uint64 settings.defaultPageLimit),
    ("tag_weight", Json.list WeightRule.toJson settings.tagWeight),
    ("tag_exclude", Json.list TagRule.toJson settings.tagExclude),
    ("use_default_tag_weight", .bool settings.useDefaultTagWeight),
    ("use_default_tag_exclude", .bool settings.useDefaultTagExclude)]

/-- Reads the settings of a listing. -/
def Settings.ofJson? (value : Json) : Option Settings := do
  let record ← Json.Record.ofJson? ["page_limits", "default_page_limit", "tag_weight",
    "tag_exclude", "use_default_tag_weight", "use_default_tag_exclude"] value
  let standard : Settings := {}
  return {
    pageLimits := ←
      (record.field "page_limits").withDefault standard.pageLimits (Json.list? Json.uint64?)
    defaultPageLimit := ←
      (record.field "default_page_limit").withDefault none (Json.option? Json.uint64?)
    tagWeight := ← (record.field "tag_weight").withDefault [] (Json.list? WeightRule.ofJson?)
    tagExclude := ← (record.field "tag_exclude").withDefault [] (Json.list? TagRule.ofJson?)
    useDefaultTagWeight := ←
      (record.field "use_default_tag_weight").withDefault standard.useDefaultTagWeight Json.bool?
    useDefaultTagExclude := ←
      (record.field "use_default_tag_exclude").withDefault standard.useDefaultTagExclude Json.bool? }

end Listing

namespace Config

/-- Writes where the server listens. -/
def Server.toJson (server : Server) : Json :=
  .record [("host", .string server.host), ("port", .integer server.port.toNat)]

/-- Reads where the server listens. -/
def Server.ofJson? (value : Json) : Option Server := do
  let record ← Json.Record.ofJson? ["host", "port"] value
  let standard : Server := {}
  return {
    host := ← (record.field "host").withDefault standard.host Json.text?
    port := ← (record.field "port").withDefault standard.port Json.uint16? }

/-- Writes which database is opened. -/
def Database.toJson (database : Database) : Json :=
  .record [
    ("vendor", .string database.vendor.name),
    ("data_dir", .string database.dataDir),
    ("db_file", .string database.dbFile),
    ("url", Json.option .string database.url),
    ("max_connections", .integer database.maxConnections.toNat)]

/-- Reads which database is opened. -/
def Database.ofJson? (value : Json) : Option Database := do
  let record ← Json.Record.ofJson? ["vendor", "data_dir", "db_file", "url", "max_connections"] value
  let standard : Database := {}
  return {
    vendor := ← (record.field "vendor").withDefault standard.vendor (Json.unit? Vendor.ofName?)
    dataDir := ← (record.field "data_dir").withDefault standard.dataDir Json.text?
    dbFile := ← (record.field "db_file").withDefault standard.dbFile Json.text?
    url := ← (record.field "url").withDefault none (Json.option? Json.text?)
    maxConnections := ←
      (record.field "max_connections").withDefault standard.maxConnections Json.uint32? }

/-- Writes how the site lists its archives. -/
def Site.toJson (site : Site) : Json :=
  .record [
    ("default_sort", .string site.defaultSort.name),
    ("default_order", .string site.defaultOrder.name),
    ("gallery_listing", site.listing.toJson)]

/-- Reads how the site lists its archives. -/
def Site.ofJson? (value : Json) : Option Site := do
  let record ← Json.Record.ofJson? ["default_sort", "default_order", "gallery_listing"] value
  let standard : Site := {}
  return {
    defaultSort := ← (record.field "default_sort").withDefault standard.defaultSort
      (Json.unit? Search.SortKey.ofName?)
    defaultOrder := ← (record.field "default_order").withDefault standard.defaultOrder
      (Json.unit? Search.Direction.ofName?)
    listing := ← (record.field "gallery_listing").withDefault {} Listing.Settings.ofJson? }

/-- Writes a configuration. -/
def toJson (config : Config) : Json :=
  .record [
    ("server", config.server.toJson),
    ("database", config.database.toJson),
    ("site", config.site.toJson)]

/-- Reads a configuration. -/
def ofJson? (value : Json) : Option Config := do
  let record ← Json.Record.ofJson? ["server", "database", "site"] value
  return {
    server := ← (record.field "server").withDefault {} Server.ofJson?
    database := ← (record.field "database").withDefault {} Database.ofJson?
    site := ← (record.field "site").withDefault {} Site.ofJson? }

/-- Reads the text of a configuration. -/
def read? (text : String) : Option Config :=
  (Json.read? text.toList).bind ofJson?

/-- The text of a configuration as it is saved. -/
def text (config : Config) : String :=
  config.toJson.toPretty

end Config

end Gallery
