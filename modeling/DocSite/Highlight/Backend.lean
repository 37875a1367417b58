/-
  DocSite.Highlight.Backend

  What colours code. The renderer decides what to highlight (code, language,
  block or span, marked lines); a backend answers with escaped HTML that goes
  inside a `<code>` element as it is.
-/
import DocSite.Highlight.LineSelection

namespace DocSite

/-- How highlighted code is embedded. -/
inductive HighlightMode where
  /-- A block of lines, some of which may be marked. -/
  | block
  /-- Code inside running text. -/
  | span
  deriving Repr, DecidableEq

/-- Why code could not be highlighted. -/
inductive HighlightError where
  | unsupportedLanguage (language : String)
  | themeNotFound (theme : String)
  | failed (reason : String)
  deriving Repr, DecidableEq

/-- The error in words. -/
def HighlightError.message : HighlightError → String
  | unsupportedLanguage language =>
    "Language '" ++ language ++ "' is not supported by this highlighter"
  | themeNotFound theme => "Theme '" ++ theme ++ "' is not available"
  | failed reason => "Highlighting failed: " ++ reason

/-- A piece of code together with what the renderer asks of a backend. -/
structure HighlightRequest where
  code : String
  language : String
  mode : HighlightMode
  lines : LineSelection
  deriving Repr, DecidableEq

/-- A way to colour code. -/
structure Backend where
  name : String
  /-- Names of the languages it lists. -/
  languages : List String
  /-- Whether it takes code in the language. -/
  supports : String → Bool
  /-- Escaped HTML for the code. -/
  highlight : HighlightRequest → Except HighlightError String

/-- Equality of texts up to the case of ASCII letters. -/
def eqIgnoringAsciiCase (a b : String) : Bool :=
  a.toList.map Char.toLower == b.toList.map Char.toLower

/-- Whether the language is in the list, up to the case of ASCII letters. -/
def listsLanguage (languages : List String) (language : String) : Bool :=
  languages.any (eqIgnoringAsciiCase language)

end DocSite
