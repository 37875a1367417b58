/-
  DocSite.Page.Settings

  What an author decides about the rendering of pages.
-/
import DocSite.Highlight.Highlighter

namespace DocSite

/-- Options of syntax highlighting. -/
structure HighlightOptions where
  /-- Colour code. When off, code is only escaped. -/
  enable : Bool := true
  theme : Option String := none
  deriving Repr, DecidableEq

/-- The highlighter that the options ask for. An unknown theme counts as none, and
    without the default theme code is only escaped. -/
def Highlighter.ofOptions (options : HighlightOptions)
    (library : SyntaxLibrary := .plainText) : Highlighter :=
  if options.enable then
    match themed options.theme library with
    | .ok h => h
    | .error _ =>
      match themed none library with
      | .ok h => h
      | .error _ => plain
  else plain

/-- Options of rendering. -/
structure RenderSettings where
  /-- Written for the `/` that a target at the root begins with. -/
  baseUrl : String := "/"
  /-- Generate identifiers for headings without one. -/
  autoIds : Bool := true
  /-- Added to the level of every heading. -/
  headerOffset : Int := 0
  /-- The heading levels that a page's table of contents lists. -/
  tocLevels : List Nat := [1, 2, 3, 4, 5, 6]
  highlight : HighlightOptions := {}
  /-- The deepest output level whose headings get a permalink. -/
  maxAnchoredLevel : Nat := 3
  deriving Repr, DecidableEq

namespace RenderSettings

/-- The level of a heading's tag. -/
def outputLevel (settings : RenderSettings) (level : Nat) : Nat :=
  (max 1 (min 6 ((level : Int) + settings.headerOffset))).toNat

/-- Whether a heading belongs in the table of contents of its page. -/
def inToc (settings : RenderSettings) (level : Nat) (cls : Option String) : Bool :=
  settings.tocLevels.contains level
    && !(cls.any fun c => (Text.words c.toList).contains "no_toc".toList)

end RenderSettings

end DocSite
