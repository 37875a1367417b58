/-
  DocSite.Config.Format

  The notations of configuration files, and a file to begin with in each.
-/
import DocSite.Text.Lowercase

namespace DocSite

/-- A notation of configuration files. -/
inductive ConfigFormat where
  | toml
  | json
  deriving Repr, DecidableEq

namespace ConfigFormat

/-- The name of a notation, which is also the extension of its files. -/
def name : ConfigFormat → String
  | .toml => "toml"
  | .json => "json"

/-- The notation of a name in lower case. -/
def ofName? (s : String) : Option ConfigFormat :=
  [toml, json].find? fun format => format.name == s

/-- The notation of a name in letters of any case. -/
def ofAnyCase? (s : List Char) : Option ConfigFormat :=
  ofName? (String.ofList (Text.lowercase s))

end ConfigFormat

/-! ## Templates -/

/-- Lines with a line break after each. -/
def ofLines (lines : List String) : String := String.join (lines.map (· ++ "\n"))

/-- A commented configuration in TOML that sets every key to its default. -/
def tomlTemplate : String := ofLines [
  "# webhelp configuration file",
  "",
  "# Directory containing the Markdown sources",
  "source_dir = \".\"",
  "",
  "# Directory that receives generated files",
  "output_dir = \"_site\"",
  "",
  "# Prefix for root-relative links: \"/guide/setup.md\" becomes \"\x7bbase_url\x7dguide/setup.html\"",
  "base_url = \"/\"",
  "",
  "# Summary document describing the page tree, relative to source_dir",
  "toc_input = \"_SUMMARY.md\"",
  "",
  "# Navigation manifest written by `webhelp toc`, relative to output_dir",
  "toc_output = \"HelpTOC.json\"",
  "",
  "[markdown]",
  "# Generate ids for headings that have no explicit \x7b#id\x7d",
  "auto_ids = true",
  "",
  "# Added to every heading level before choosing the <hN> tag",
  "header_offset = 0",
  "",
  "# Heading levels recorded in each page's table of contents",
  "toc_levels = [1, 2, 3, 4, 5, 6]",
  "",
  "[markdown.highlight]",
  "# Colour code blocks and spans. When disabled, code is only escaped",
  "enable = true",
  "",
  "# Highlighting theme, e.g. \"InspiredGitHub\", \"Nord\" or \"Dracula\"",
  "# theme = \"InspiredGitHub\""]

/-- A configuration in JSON that sets every key to its default. -/
def jsonTemplate : String := ofLines [
  "\x7b",
  "  \"source_dir\": \".\",",
  "  \"output_dir\": \"_site\",",
  "  \"base_url\": \"/\",",
  "  \"toc_input\": \"_SUMMARY.md\",",
  "  \"toc_output\": \"HelpTOC.json\",",
  "  \"markdown\": \x7b",
  "    \"auto_ids\": true,",
  "    \"header_offset\": 0,",
  "    \"toc_levels\": [1, 2, 3, 4, 5, 6],",
  "    \"highlight\": \x7b",
  "      \"enable\": true",
  "    \x7d",
  "  \x7d",
  "\x7d"]

/-- The configuration to begin with. -/
def ConfigFormat.template : ConfigFormat → String
  | .toml => tomlTemplate
  | .json => jsonTemplate

end DocSite
