/-
  DocSite.Config.Basic

  The configuration of a site and what its parts are for.
-/
import DocSite.Manifest.Generate
import DocSite.Page.Settings

namespace DocSite

/-- Options of rendering Markdown pages. -/
structure MarkdownConfig where
  /-- Generate identifiers for headings without one. -/
  autoIds : Bool := true
  /-- Added to the level of every heading. -/
  headerOffset : Int := 0
  /-- The heading levels that a page's table of contents lists. -/
  tocLevels : List Nat := [1, 2, 3, 4, 5, 6]
  highlight : HighlightOptions := {}
  deriving Repr, DecidableEq

/-- The configuration of a site. -/
structure Config where
  /-- The directory of the Markdown sources. -/
  sourceDir : String := "."
  /-- The directory that receives what is generated. -/
  outputDir : String := "_site"
  /-- Written for the `/` that a target at the root begins with. -/
  baseUrl : String := "/"
  /-- The summary, seen from the directory of the sources. -/
  tocInput : String := "_SUMMARY.md"
  /-- The manifest, seen from the directory of the output. -/
  tocOutput : String := "HelpTOC.json"
  markdown : MarkdownConfig := {}
  deriving Repr, DecidableEq

/-! ## Bounds -/

/-- The bounds of a heading offset. -/
def offsetBounds : Int × Int := (-128, 127)

/-- The bounds of a number in the list of heading levels. -/
def levelBounds : Int × Int := (0, 255)

namespace Config

/-! ## Uses -/

/-- The options of rendering. -/
def renderSettings (c : Config) : RenderSettings :=
  { baseUrl := c.baseUrl
    autoIds := c.markdown.autoIds
    headerOffset := c.markdown.headerOffset
    tocLevels := c.markdown.tocLevels
    highlight := c.markdown.highlight }

/-- Where the summary and the manifest are. -/
def manifestPaths (c : Config) : ManifestPaths := ⟨c.tocInput, c.tocOutput⟩

end Config

end DocSite
