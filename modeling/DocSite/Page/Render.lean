/-
  DocSite.Page.Render

  Pages: the HTML of a document with its table of contents and its title.
-/
import DocSite.Page.Layout
import DocSite.Page.Settle

namespace DocSite

/-- A rendered document. -/
structure Page where
  html : String
  /-- The headings of the table of contents, in the order of the page. -/
  toc : List TocEntry
  /-- The text of the first heading of level one. -/
  title : Option String

/-- Settings and a highlighter, shared by all pages of a site. -/
structure Renderer where
  settings : RenderSettings
  highlighter : Highlighter

namespace Renderer

/-- The renderer whose highlighter the settings choose. -/
def ofSettings (settings : RenderSettings) (library : SyntaxLibrary := .plainText) : Renderer :=
  ⟨settings, .ofOptions settings.highlight library⟩

/-- Renders a document. Identifiers continue those that have been issued, and the
    ones issued here are returned also when there is no page. -/
def renderWithIds (r : Renderer) (document : Node) (ids : HeadingIds) :
    Except RenderError Page × HeadingIds :=
  let draft := Draft.ofNode r.settings.baseUrl document
  let (result, progress) := (settleAll r.settings r.highlighter draft).run.run (.start ids)
  (result.map fun html => ⟨Html.printAll html, progress.toc, progress.title⟩, progress.ids)

/-- Renders a document by itself. -/
def render (r : Renderer) (document : Node) : Except RenderError Page :=
  (r.renderWithIds document .empty).1

end Renderer

end DocSite
