import Gallery.Config.Codec
import Gallery.Text.Utf8

namespace Gallery
namespace Config

/-!
# The configuration file

When there is no file, the default configuration is used and saved.  A file that
is no text cannot be read, and one that holds no configuration cannot be parsed.
-/

/-- Why a configuration file cannot be loaded. -/
inductive LoadError where
  | unreadable
  | unparsable
deriving DecidableEq, Repr

/-- What a load error says. -/
def LoadError.message : LoadError → String
  | .unreadable => "Failed to read config file"
  | .unparsable => "Failed to parse config file"

/-- A loaded configuration with the octets of its file afterwards. -/
structure Loaded where
  config : Config
  file : List UInt8

/-- The octets of a saved configuration. -/
def saved (config : Config) : List UInt8 :=
  Text.Utf8.encode config.text.toList

/-- Loads the configuration from the octets of its file, if there is one. -/
def load (file : Option (List UInt8)) : Except LoadError Loaded :=
  match file with
  | none => .ok { config := {}, file := saved {} }
  | some octets =>
      match Text.Utf8.decode? octets with
      | none => .error .unreadable
      | some text =>
          match read? (String.ofList text) with
          | none => .error .unparsable
          | some config => .ok { config := config, file := octets }

end Config
end Gallery
