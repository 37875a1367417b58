/-
  DocSite.Config.Override

  Overrides of single keys, written `KEY=VALUE`.
-/
import DocSite.Config.Basic
import DocSite.Config.Error
import DocSite.Text.Blank
import DocSite.Text.Split

namespace DocSite

open Text

/-! ## Keys -/

/-- A key of a configuration. -/
inductive ConfigKey where
  | sourceDir
  | outputDir
  | baseUrl
  | tocInput
  | tocOutput
  | autoIds
  | headerOffset
  | tocLevels
  | highlightEnable
  | highlightTheme
  deriving Repr, DecidableEq

namespace ConfigKey

/-- All keys. -/
def all : List ConfigKey :=
  [sourceDir, outputDir, baseUrl, tocInput, tocOutput, autoIds, headerOffset, tocLevels,
    highlightEnable, highlightTheme]

/-- The name of a key. Dots lead into its section. -/
def name : ConfigKey → String
  | sourceDir => "source_dir"
  | outputDir => "output_dir"
  | baseUrl => "base_url"
  | tocInput => "toc_input"
  | tocOutput => "toc_output"
  | autoIds => "markdown.auto_ids"
  | headerOffset => "markdown.header_offset"
  | tocLevels => "markdown.toc_levels"
  | highlightEnable => "markdown.highlight.enable"
  | highlightTheme => "markdown.highlight.theme"

/-- The key of a name. -/
def ofName? (s : String) : Option ConfigKey := all.find? fun key => key.name == s

end ConfigKey

/-! ## Values -/

/-- Reads a truth value in letters of any case. -/
def booleanOf? (s : List Char) : Option Bool :=
  let word := String.ofList (lowercase s)
  if ["true", "yes", "1"].contains word then some true
  else if ["false", "no", "0"].contains word then some false
  else none

/-- Reads a number between two bounds. A plus sign may stand in front, and a minus
    sign where numbers may be negative. -/
def numberOf? (bounds : Int × Int) (s : List Char) : Option Int :=
  let magnitude? : Option Int :=
    match s with
    | '+' :: digits => (readDecimal? digits).map Int.ofNat
    | '-' :: digits =>
      if bounds.1 < 0 then (readDecimal? digits).map fun n => -(n : Int) else none
    | digits => (readDecimal? digits).map Int.ofNat
  magnitude?.filter fun n => bounds.1 ≤ n && n ≤ bounds.2

/-- The pieces of a list between commas, without those that are blank. -/
def listPieces (s : List Char) : List (List Char) :=
  ((s.splitOn ',').map trim).filter fun piece => !piece.isEmpty

/-- Reads the levels that pieces of a list denote. -/
def levelsOf (key : ConfigKey) : List (List Char) → Except ConfigError (List Nat)
  | [] => pure []
  | piece :: rest =>
    match numberOf? levelBounds piece with
    | some n => do
      let ns ← levelsOf key rest
      pure (n.toNat :: ns)
    | none => throw (.badNumber key.name (String.ofList piece))

namespace Config

/-- Reads a truth value for a key and stores it. -/
def setBoolean (key : ConfigKey) (value : List Char) (store : Bool → Config) :
    Except ConfigError Config :=
  match booleanOf? value with
  | some b => .ok (store b)
  | none => .error (.badBoolean key.name (String.ofList value))

/-- Gives a key the value that a text denotes. -/
def assign (c : Config) (key : ConfigKey) (value : List Char) : Except ConfigError Config :=
  let md := c.markdown
  let text := String.ofList value
  match key with
  | .sourceDir => .ok { c with sourceDir := text }
  | .outputDir => .ok { c with outputDir := text }
  | .baseUrl => .ok { c with baseUrl := text }
  | .tocInput => .ok { c with tocInput := text }
  | .tocOutput => .ok { c with tocOutput := text }
  | .autoIds => setBoolean key value fun b => { c with markdown := { md with autoIds := b } }
  | .headerOffset =>
    match numberOf? offsetBounds value with
    | some n => .ok { c with markdown := { md with headerOffset := n } }
    | none => .error (.badNumber key.name text)
  | .tocLevels =>
    (levelsOf key (listPieces value)).map fun ns =>
      { c with markdown := { md with tocLevels := ns } }
  | .highlightEnable =>
    setBoolean key value fun b =>
      { c with markdown := { md with highlight := { md.highlight with enable := b } } }
  | .highlightTheme =>
    let theme := if value.isEmpty then none else some text
    .ok { c with markdown := { md with highlight := { md.highlight with theme } } }

/-! ## Overrides -/

/-- Applies an override. -/
def applyOverride (c : Config) (text : String) : Except ConfigError Config :=
  match splitOnce '=' text.toList with
  | none => .error (.badOverride text)
  | some (key, value) =>
    let name := String.ofList (trim key)
    match ConfigKey.ofName? name with
    | none => .error (.unknownKey name)
    | some key => c.assign key (trim value)

/-- Applies overrides in order up to the first that is invalid: its error, if
    there is one, and the configuration with the overrides before it. -/
def applyOverrides (c : Config) : List String → Option ConfigError × Config
  | [] => (none, c)
  | text :: rest =>
    match c.applyOverride text with
    | .ok c => c.applyOverrides rest
    | .error e => (some e, c)

end Config

end DocSite
