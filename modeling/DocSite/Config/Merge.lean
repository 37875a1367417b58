/-
  DocSite.Config.Merge

  Merging of configurations: what a later one sets to something other than the
  default replaces what an earlier one holds.
-/
import DocSite.Config.Basic

namespace DocSite

/-- The later value, unless it is the default. -/
def laterValue {α : Type} [DecidableEq α] (default earlier later : α) : α :=
  if later = default then earlier else later

/-- The later path, unless it is the default one in its components. -/
def laterPath (default earlier later : String) : String :=
  if Path.same later.toList default.toList then earlier else later

/-- Merges options of rendering. A theme is replaced where the later one is set. -/
def MarkdownConfig.merge (a b : MarkdownConfig) : MarkdownConfig :=
  let default : MarkdownConfig := {}
  { autoIds := laterValue default.autoIds a.autoIds b.autoIds
    headerOffset := laterValue default.headerOffset a.headerOffset b.headerOffset
    tocLevels := laterValue default.tocLevels a.tocLevels b.tocLevels
    highlight :=
      { enable := laterValue default.highlight.enable a.highlight.enable b.highlight.enable
        theme := b.highlight.theme <|> a.highlight.theme } }

/-- Merges configurations. -/
def Config.merge (a b : Config) : Config :=
  let default : Config := {}
  { sourceDir := laterPath default.sourceDir a.sourceDir b.sourceDir
    outputDir := laterPath default.outputDir a.outputDir b.outputDir
    baseUrl := laterValue default.baseUrl a.baseUrl b.baseUrl
    tocInput := laterPath default.tocInput a.tocInput b.tocInput
    tocOutput := laterPath default.tocOutput a.tocOutput b.tocOutput
    markdown := a.markdown.merge b.markdown }

end DocSite
