/-
  DocSite.Config.Error

  What can be wrong with a configuration.
-/
import DocSite.Config.Format
import DocSite.Text.Decimal

namespace DocSite

/-- Why there is no configuration. -/
inductive ConfigError where
  /-- A file cannot be read. -/
  | unreadable (path : String)
  /-- A file does not hold a configuration in its notation. -/
  | malformed (format : ConfigFormat) (path : String)
  /-- A file has an extension of no notation. -/
  | unknownExtension (path : String)
  | noExtension (path : String)
  /-- An override has no equals sign. -/
  | badOverride (text : String)
  | badBoolean (key value : String)
  | badNumber (key value : String)
  | unknownKey (key : String)
  /-- A heading level that no heading has. -/
  | badLevel (level : Nat)
  /-- A new file cannot be written. -/
  | unwritable (path : String)
  /-- There is no template of a format. -/
  | unknownFormat (format : String)
  deriving Repr, DecidableEq

namespace ConfigError

/-- The name of a notation in messages. -/
def formatName : ConfigFormat → String
  | .toml => "TOML"
  | .json => "JSON"

/-- What is wrong. -/
def reason : ConfigError → String
  | unreadable path => "Failed to read config file: " ++ path
  | malformed format path =>
    "Failed to parse " ++ formatName format ++ " config from " ++ path
  | unknownExtension path => "Unsupported config file format: " ++ path
  | noExtension path => "Config file has no extension: " ++ path
  | badOverride text =>
    "Invalid config override format: '" ++ text ++ "'. Expected KEY=VALUE"
  | badBoolean key value =>
    "Invalid boolean value for '" ++ key ++ "': '" ++ value
      ++ "'. Expected true/false, yes/no, or 1/0"
  | badNumber key value => "Invalid numeric value for '" ++ key ++ "': '" ++ value ++ "'"
  | unknownKey key => "Unknown config key: '" ++ key ++ "'"
  | badLevel level =>
    "Invalid TOC level " ++ String.ofList (Text.decimal level)
      ++ ", expected a heading level between 1 and 6"
  | unwritable path => "Failed to write default config to " ++ path
  | unknownFormat format => "Unsupported config format: " ++ format

/-- Whether the error is about a template and not about a configuration. -/
def isTemplateError : ConfigError → Bool
  | unknownFormat _ => true
  | _ => false

/-- The message of an error. -/
def message (e : ConfigError) : String :=
  (if e.isTemplateError then "Template error: " else "Configuration error: ") ++ e.reason

end ConfigError

end DocSite
