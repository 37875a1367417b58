/-
  DocSite.Proofs.Config.Settings

  What a configuration file sets. A file is a record of records, and a key stands in one
  of them. The configuration of a file has for each key what is written there, or else
  the default.
-/
import DocSite.Config.Decode
import DocSite.Proofs.Config.Keys

namespace DocSite

/-! ## Where keys stand -/

/-- The records of a configuration file. -/
inductive ConfigRecord where
  | site
  | markdown
  | highlight
  deriving Repr, DecidableEq

/-- The fields of a record in the order in which a list gives them. -/
def ConfigRecord.fields : ConfigRecord → List String
  | .site => ["source_dir", "output_dir", "base_url", "toc_input", "toc_output", "markdown"]
  | .markdown => ["auto_ids", "header_offset", "toc_levels", "highlight"]
  | .highlight => ["enable", "theme"]

namespace ConfigKey

/-- The record that a key stands in. -/
def record : ConfigKey → ConfigRecord
  | .sourceDir | .outputDir | .baseUrl | .tocInput | .tocOutput => .site
  | .autoIds | .headerOffset | .tocLevels => .markdown
  | .highlightEnable | .highlightTheme => .highlight

/-- The name of a key in its record. -/
def field : ConfigKey → String
  | .sourceDir => "source_dir"
  | .outputDir => "output_dir"
  | .baseUrl => "base_url"
  | .tocInput => "toc_input"
  | .tocOutput => "toc_output"
  | .autoIds => "auto_ids"
  | .headerOffset => "header_offset"
  | .tocLevels => "toc_levels"
  | .highlightEnable => "enable"
  | .highlightTheme => "theme"

/-- Reads a value of a key. -/
def read? : (key : ConfigKey) → Value → Option key.ValueType
  | .sourceDir | .outputDir | .baseUrl | .tocInput | .tocOutput => Value.asText?
  | .autoIds | .highlightEnable => Value.asBoolean?
  | .headerOffset => Value.asInteger? offsetBounds.1 offsetBounds.2
  | .tocLevels => Value.asList? levelOfValue?
  | .highlightTheme => Value.asNullable? Value.asText?

end ConfigKey

namespace Value

/-- What is written for a field of a record. -/
def field? (exact : Bool) (record : ConfigRecord) (name : String) (value : Value) :
    Option Value :=
  (value.fields? exact record.fields).bind (List.lookup name)

/-- A record of a configuration file. -/
def recordOf? (exact : Bool) (value : Value) : ConfigRecord → Option Value
  | .site => some value
  | .markdown => value.field? exact .site "markdown"
  | .highlight =>
    (value.field? exact .site "markdown").bind (field? exact .markdown "highlight")

/-- What is written for a key. -/
def written? (exact : Bool) (value : Value) (key : ConfigKey) : Option Value :=
  (value.recordOf? exact key.record).bind (field? exact key.record key.field)

end Value

/-! ## Records -/

section Records

variable {α β : Type} {exact : Bool} {value : Value}

theorem fieldOr_eq_elim (fields : List (String × Value)) (name : String) (default : α)
    (read : Value → Option α) :
    fieldOr fields name default read = (fields.lookup name).elim (some default) read := by
  rw [fieldOr]
  cases fields.lookup name <;> rfl

/-- What is read of a part of a field that may be missing. -/
theorem elim_bind {written : Option Value} {default a : α} {read : Value → Option α}
    (h : written.elim (some default) read = some a) (part : α → β) {inner : Value → Option Value}
    {readPart : Value → Option β}
    (hpart : ∀ v, read v = some a → (inner v).elim (some (part default)) readPart = some (part a)) :
    (written.bind inner).elim (some (part default)) readPart = some (part a) := by
  cases written with
  | none =>
    obtain rfl := Option.some.inj h
    rfl
  | some v => exact hpart v h

theorem HighlightOptions.of_ofValue?_eq_some {o : HighlightOptions}
    (h : HighlightOptions.ofValue? exact value = some o) :
    (value.field? exact .highlight "enable").elim (some true) Value.asBoolean? = some o.enable ∧
      (value.field? exact .highlight "theme").elim (some none)
        (Value.asNullable? Value.asText?) = some o.theme := by
  obtain ⟨fields, hfields, h⟩ := Option.bind_eq_some_iff.mp h
  simp only [Option.bind_eq_bind, Option.bind_eq_some_iff, fieldOr_eq_elim] at h
  obtain ⟨enable, henable, theme, htheme, h⟩ := h
  obtain rfl := Option.some.inj h
  have hfields : value.fields? exact ConfigRecord.highlight.fields = some fields := hfields
  simp only [Value.field?, hfields, Option.bind_some]
  exact ⟨henable, htheme⟩

theorem MarkdownConfig.of_ofValue?_eq_some {md : MarkdownConfig}
    (h : MarkdownConfig.ofValue? exact value = some md) :
    (value.field? exact .markdown "auto_ids").elim (some ({} : MarkdownConfig).autoIds)
        Value.asBoolean? = some md.autoIds ∧
      (value.field? exact .markdown "header_offset").elim
        (some ({} : MarkdownConfig).headerOffset)
        (Value.asInteger? offsetBounds.1 offsetBounds.2) = some md.headerOffset ∧
      (value.field? exact .markdown "toc_levels").elim (some ({} : MarkdownConfig).tocLevels)
        (Value.asList? levelOfValue?) = some md.tocLevels ∧
      (value.field? exact .markdown "highlight").elim (some ({} : MarkdownConfig).highlight)
        (HighlightOptions.ofValue? exact) = some md.highlight := by
  obtain ⟨fields, hfields, h⟩ := Option.bind_eq_some_iff.mp h
  simp only [Option.bind_eq_bind, Option.bind_eq_some_iff, fieldOr_eq_elim] at h
  obtain ⟨autoIds, hids, headerOffset, hoffset, tocLevels, hlevels, highlight, hhighlight, h⟩ := h
  obtain rfl := Option.some.inj h
  have hfields : value.fields? exact ConfigRecord.markdown.fields = some fields := hfields
  simp only [Value.field?, hfields, Option.bind_some]
  exact ⟨hids, hoffset, hlevels, hhighlight⟩

theorem Config.of_ofValue?_eq_some {c : Config} (h : Config.ofValue? exact value = some c) :
    (value.field? exact .site "source_dir").elim (some ({} : Config).sourceDir)
        Value.asText? = some c.sourceDir ∧
      (value.field? exact .site "output_dir").elim (some ({} : Config).outputDir)
        Value.asText? = some c.outputDir ∧
      (value.field? exact .site "base_url").elim (some ({} : Config).baseUrl)
        Value.asText? = some c.baseUrl ∧
      (value.field? exact .site "toc_input").elim (some ({} : Config).tocInput)
        Value.asText? = some c.tocInput ∧
      (value.field? exact .site "toc_output").elim (some ({} : Config).tocOutput)
        Value.asText? = some c.tocOutput ∧
      (value.field? exact .site "markdown").elim (some ({} : Config).markdown)
        (MarkdownConfig.ofValue? exact) = some c.markdown := by
  obtain ⟨fields, hfields, h⟩ := Option.bind_eq_some_iff.mp h
  simp only [Option.bind_eq_bind, Option.bind_eq_some_iff, fieldOr_eq_elim] at h
  obtain ⟨sourceDir, hsource, outputDir, houtput, baseUrl, hurl, tocInput, hinput, tocOutput,
    htoc, markdown, hmarkdown, h⟩ := h
  obtain rfl := Option.some.inj h
  have hfields : value.fields? exact ConfigRecord.site.fields = some fields := hfields
  simp only [Value.field?, hfields, Option.bind_some]
  exact ⟨hsource, houtput, hurl, hinput, htoc, hmarkdown⟩

/-- A configuration has for each key what is written for it, or else the default. -/
theorem Config.get_of_ofValue? {c : Config} (h : Config.ofValue? exact value = some c)
    (key : ConfigKey) :
    (value.written? exact key).elim (some key.default) key.read? = some (c.get key) := by
  obtain ⟨hsource, houtput, hurl, hinput, htoc, hmarkdown⟩ := Config.of_ofValue?_eq_some h
  have hhighlight : (value.recordOf? exact .highlight).elim (some ({} : Config).markdown.highlight)
      (HighlightOptions.ofValue? exact) = some c.markdown.highlight :=
    elim_bind hmarkdown MarkdownConfig.highlight fun v hv =>
      (MarkdownConfig.of_ofValue?_eq_some hv).2.2.2
  cases key with
  | sourceDir => exact hsource
  | outputDir => exact houtput
  | baseUrl => exact hurl
  | tocInput => exact hinput
  | tocOutput => exact htoc
  | autoIds =>
    exact elim_bind hmarkdown MarkdownConfig.autoIds fun v hv =>
      (MarkdownConfig.of_ofValue?_eq_some hv).1
  | headerOffset =>
    exact elim_bind hmarkdown MarkdownConfig.headerOffset fun v hv =>
      (MarkdownConfig.of_ofValue?_eq_some hv).2.1
  | tocLevels =>
    exact elim_bind hmarkdown MarkdownConfig.tocLevels fun v hv =>
      (MarkdownConfig.of_ofValue?_eq_some hv).2.2.1
  | highlightEnable =>
    exact elim_bind hhighlight HighlightOptions.enable fun v hv =>
      (HighlightOptions.of_ofValue?_eq_some hv).1
  | highlightTheme =>
    exact elim_bind hhighlight HighlightOptions.theme fun v hv =>
      (HighlightOptions.of_ofValue?_eq_some hv).2

end Records

/-! ## Texts -/

namespace ConfigFormat

/-- Reads the values of a text in a notation. -/
def read? : ConfigFormat → List Char → Option Value
  | .toml => Toml.read?
  | .json => Json.read?

/-- Whether lists that stand for records are as long as these at most. -/
def isExact : ConfigFormat → Bool
  | .toml => false
  | .json => true

theorem decode?_eq (format : ConfigFormat) (text : List Char) :
    format.decode? text = (format.read? text).bind (Config.ofValue? format.isExact) := by
  cases format <;> rfl

end ConfigFormat

/-- What the text of a file sets a key to, if it sets it. The path tells the notation. -/
def ConfigKey.setting? (key : ConfigKey) (path text : String) : Option key.ValueType :=
  (Path.extension? path.toList).bind fun extension =>
    (ConfigFormat.ofAnyCase? extension).bind fun format =>
      (format.read? text.toList).bind fun value =>
        (value.written? format.isExact key).bind key.read?

/-- The configuration in a text has for each key what the text sets it to, or else the
    default. -/
theorem Config.get_of_ofText {path text : String} {c : Config}
    (h : Config.ofText path text = .ok c) (key : ConfigKey) :
    c.get key = (key.setting? path text).getD key.default := by
  rw [Config.ofText] at h
  split at h
  · nomatch h
  · next extension hextension =>
    split at h
    · nomatch h
    · next format hformat =>
      split at h
      · next config hconfig =>
        obtain rfl := Except.ok.inj h
        rw [ConfigFormat.decode?_eq, Option.bind_eq_some_iff] at hconfig
        obtain ⟨value, hvalue, hconfig⟩ := hconfig
        have hkey := Config.get_of_ofValue? hconfig key
        rw [ConfigKey.setting?, hextension, Option.bind_some, hformat, Option.bind_some, hvalue,
          Option.bind_some]
        -- A key that is written can be read, as otherwise the text would have been refused.
        cases hwritten : value.written? format.isExact key with
        | none =>
          rw [hwritten] at hkey
          exact (Option.some.inj hkey).symm
        | some v =>
          rw [hwritten] at hkey
          have hread : key.read? v = some (config.get key) := hkey
          rw [Option.bind_some, hread, Option.getD_some]
      · nomatch h

end DocSite
