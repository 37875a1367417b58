/-
  DocSite.Highlight.Highlighter

  A backend together with the names its users may write: aliases of languages
  are resolved first, and code in a language the backend does not take is
  highlighted as plain text or refused.
-/
import DocSite.Highlight.Themed

namespace DocSite

/-- A backend behind language aliases. -/
structure Highlighter where
  backend : Backend
  /-- Lower-case aliases and the languages they name; of several entries for one
      alias the last counts. -/
  aliases : List (String × String)
  /-- Whether code in an unsupported language is highlighted as plain text. -/
  fallbackToPlain : Bool

/-- Short names in common use. -/
def defaultAliases : List (String × String) :=
  [("js", "javascript"), ("ts", "typescript"), ("py", "python"), ("rb", "ruby"), ("sh", "bash"),
    ("shell", "bash"), ("yml", "yaml"), ("md", "markdown"), ("cs", "c#"), ("csharp", "c#"),
    ("kt", "kotlin")]

namespace Highlighter

/-- The default aliases in front of a backend. -/
def ofBackend (backend : Backend) : Highlighter := ⟨backend, defaultAliases, true⟩

/-- Code is only escaped. -/
def plain : Highlighter := ofBackend .plain

/-- The highlighter for a theme. -/
def themed (theme : Option String) (library : SyntaxLibrary := .plainText) :
    Except HighlightError Highlighter :=
  (Backend.themed theme library).map ofBackend

/-- The language a name stands for: the name in lower case, or what that is an
    alias of. -/
def resolve (h : Highlighter) (language : String) : String :=
  let lowered := String.ofList (Text.lowercase language.toList)
  (h.aliases.reverse.lookup lowered).getD lowered

/-- Highlights code, in plain text if need be. -/
def highlight (h : Highlighter) (request : HighlightRequest) : Except HighlightError String :=
  let language := h.resolve request.language
  if h.backend.supports language then
    h.backend.highlight { request with language }
  else if h.fallbackToPlain then
    h.backend.highlight { request with language := "text" }
  else .error (.unsupportedLanguage language)

end Highlighter

end DocSite
