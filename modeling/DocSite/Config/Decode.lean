/-
  DocSite.Config.Decode

  Configurations in files. Keys that a file leaves out have their defaults, and
  keys of no meaning count for nothing.
-/
import DocSite.Config.Basic
import DocSite.Config.Error
import DocSite.Json.Read
import DocSite.Toml.Read

namespace DocSite

/-! ## Records -/

/-- Options of highlighting. -/
def HighlightOptions.ofValue? (exact : Bool) (value : Value) : Option HighlightOptions := do
  let fields ← value.fields? exact ["enable", "theme"]
  let enable ← fieldOr fields "enable" true Value.asBoolean?
  let theme ← fieldOr fields "theme" none (Value.asNullable? Value.asText?)
  pure ⟨enable, theme⟩

/-- A heading level. -/
def levelOfValue? (value : Value) : Option Nat :=
  (value.asInteger? levelBounds.1 levelBounds.2).map Int.toNat

/-- Options of rendering. -/
def MarkdownConfig.ofValue? (exact : Bool) (value : Value) : Option MarkdownConfig := do
  let default : MarkdownConfig := {}
  let fields ← value.fields? exact ["auto_ids", "header_offset", "toc_levels", "highlight"]
  let autoIds ← fieldOr fields "auto_ids" default.autoIds Value.asBoolean?
  let headerOffset ← fieldOr fields "header_offset" default.headerOffset
    (Value.asInteger? offsetBounds.1 offsetBounds.2)
  let tocLevels ← fieldOr fields "toc_levels" default.tocLevels (Value.asList? levelOfValue?)
  let highlight ← fieldOr fields "highlight" default.highlight (HighlightOptions.ofValue? exact)
  pure ⟨autoIds, headerOffset, tocLevels, highlight⟩

/-- A configuration. Where `exact` holds, lists that stand for records have no
    elements beyond the fields. -/
def Config.ofValue? (exact : Bool) (value : Value) : Option Config := do
  let default : Config := {}
  let fields ← value.fields? exact
    ["source_dir", "output_dir", "base_url", "toc_input", "toc_output", "markdown"]
  let sourceDir ← fieldOr fields "source_dir" default.sourceDir Value.asText?
  let outputDir ← fieldOr fields "output_dir" default.outputDir Value.asText?
  let baseUrl ← fieldOr fields "base_url" default.baseUrl Value.asText?
  let tocInput ← fieldOr fields "toc_input" default.tocInput Value.asText?
  let tocOutput ← fieldOr fields "toc_output" default.tocOutput Value.asText?
  let markdown ← fieldOr fields "markdown" default.markdown (MarkdownConfig.ofValue? exact)
  pure ⟨sourceDir, outputDir, baseUrl, tocInput, tocOutput, markdown⟩

/-! ## Texts -/

/-- The configuration in a text. -/
def ConfigFormat.decode? (format : ConfigFormat) (text : List Char) : Option Config :=
  match format with
  | .toml => (Toml.read? text).bind (Config.ofValue? false)
  | .json => (Json.read? text).bind (Config.ofValue? true)

/-- The configuration in the text of a file. The file's extension gives the
    notation. -/
def Config.ofText (path text : String) : Except ConfigError Config :=
  match Path.extension? path.toList with
  | none => .error (.noExtension path)
  | some extension =>
    match ConfigFormat.ofAnyCase? extension with
    | none => .error (.unknownExtension path)
    | some format =>
      match format.decode? text.toList with
      | some config => .ok config
      | none => .error (.malformed format path)

end DocSite
