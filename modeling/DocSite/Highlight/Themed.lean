/-
  DocSite.Highlight.Themed

  The backend that colours code in a theme, line by line. The grammars, and what
  they make of a line, come from a library that is given to it.
-/
import DocSite.Highlight.Languages
import DocSite.Highlight.Plain
import DocSite.Text.Lowercase

namespace DocSite

/-! ## The library -/

/-- What a library of grammars and themes answers. -/
structure SyntaxLibrary where
  /-- The themes that it lists. -/
  themes : List String
  /-- Names and file extensions of its grammars. -/
  languages : List String
  /-- Whether a name belongs to a grammar. -/
  knows : String → Bool
  /-- Colours text in a theme: by the grammar that a name belongs to, or as plain
      text, and after the lines before it. Or it fails, for a reason. -/
  colour : String → Option String → List String → String → Except String String

/-! ## Themes -/

/-- Themes that are bundled with every library. -/
def bundledThemes : List String :=
  ["Base16OceanDark", "Base16OceanLight", "ColdarkCold", "ColdarkDark", "Dracula", "Github",
    "GruvboxDark", "GruvboxLight", "InspiredGithub", "MonokaiExtended", "MonokaiExtendedBright",
    "MonokaiExtendedLight", "Nord", "OneHalfDark", "OneHalfLight", "SolarizedDark",
    "SolarizedLight", "SublimeSnazzy", "TwoDark", "Zenburn"]

/-- The theme used when none is configured. -/
def defaultTheme : String := "InspiredGitHub"

namespace SyntaxLibrary

/-- Whether there is a theme of a name. -/
def hasTheme (library : SyntaxLibrary) (name : String) : Bool :=
  library.themes.contains name || bundledThemes.contains name

/-! ## Colouring -/

/-- Colours lines one after the other, up to the first that fails. -/
def colourLines (library : SyntaxLibrary) (theme : String) (grammar : Option String) :
    List String → List String → Except String (List String)
  | _, [] => .ok []
  | before, line :: rest => do
    let coloured ← library.colour theme grammar before line
    let more ← library.colourLines theme grammar (before ++ [line]) rest
    pure (coloured :: more)

/-- The name of the grammar for a language. A language without one is plain text. -/
def grammar? (library : SyntaxLibrary) (language : String) : Option String :=
  if library.knows language then some language else none

/-- Coloured code: line by line in a block, all at once in a span. -/
def highlight (library : SyntaxLibrary) (theme : String) (request : HighlightRequest) :
    Except String String := do
  let grammar := library.grammar? request.language
  match request.mode with
  | .span => library.colour theme grammar [] request.code
  | .block => do
    let lines := (codeLines request.code.toList).map String.ofList
    let coloured ← library.colourLines theme grammar [] lines
    pure (String.ofList (markLines request.lines 1 (coloured.map String.toList)))

end SyntaxLibrary

/-! ## Plain text -/

/-- The colour of plain text in each theme, in byte order. -/
def themeColours : List (String × String) :=
  [("Base16OceanDark", "#c0c5ce"), ("Base16OceanLight", "#4f5b66"), ("ColdarkCold", "#111b27"),
    ("ColdarkDark", "#e3eaf2"), ("Dracula", "#f8f8f2"), ("Github", "#333333"),
    ("GruvboxDark", "#fbf1c7"), ("GruvboxLight", "#282828"), ("InspiredGitHub", "#323232"),
    ("InspiredGithub", "#323232"), ("MonokaiExtended", "#f8f8f2"),
    ("MonokaiExtendedBright", "#f8f8f2"), ("MonokaiExtendedLight", "#49483e"),
    ("Nord", "#d8dee9"), ("OneHalfDark", "#dcdfe4"), ("OneHalfLight", "#383a42"),
    ("Solarized (dark)", "#839496"), ("Solarized (light)", "#657b83"),
    ("SolarizedDark", "#839496"), ("SolarizedLight", "#657b83"), ("SublimeSnazzy", "#f8f8f2"),
    ("TwoDark", "#abb2bf"), ("Zenburn", "#dedede"), ("base16-eighties.dark", "#d3d0c8"),
    ("base16-mocha.dark", "#d0c8c6"), ("base16-ocean.dark", "#c0c5ce"),
    ("base16-ocean.light", "#4f5b66")]

/-- One character inside a coloured span: quotes are escaped too. -/
def escapeColouredChar (c : Char) : List Char :=
  match c with
  | '"' => "&quot;".toList
  | '\'' => "&#39;".toList
  | c => Html.escapeTextChar c

/-- Text in one colour; no text needs no element. -/
def colourText (colour s : List Char) : List Char :=
  if s.isEmpty then []
  else
    "<span style=\"color:".toList ++ colour ++ ";\">".toList
      ++ s.flatMap escapeColouredChar ++ "</span>".toList

/-- A library without grammars: every language is coloured as plain text, and nothing
    fails. -/
def SyntaxLibrary.plainText : SyntaxLibrary where
  themes :=
    ["InspiredGitHub", "Solarized (dark)", "Solarized (light)", "base16-eighties.dark",
      "base16-mocha.dark", "base16-ocean.dark", "base16-ocean.light"]
  languages := themedLanguages
  knows := listsLanguage themedLanguages
  colour := fun theme _ _ text =>
    -- A theme that names no colour writes in black.
    let colour := (themeColours.lookup theme).getD "#000000"
    .ok (String.ofList (colourText colour.toList text.toList))

/-! ## The backend -/

/-- The names of all themes, in byte order. -/
def availableThemes (library : SyntaxLibrary := .plainText) : List String :=
  ((library.themes ++ bundledThemes).mergeSort fun a b => !decide (b < a)).eraseReps

/-- The backend for a theme, the default one when none is named. -/
def Backend.themed (theme : Option String) (library : SyntaxLibrary := .plainText) :
    Except HighlightError Backend :=
  let name := theme.getD defaultTheme
  if library.hasTheme name then
    .ok {
      name := "Syntect"
      languages := library.languages.map fun name => String.ofList (Text.lowercase name.toList)
      supports := library.knows
      highlight := fun request => (library.highlight name request).mapError .failed }
  else .error (.themeNotFound name)

end DocSite
