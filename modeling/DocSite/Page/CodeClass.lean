/-
  DocSite.Page.CodeClass

  The `class` attribute of a code element: `language-NAME`, and after it, from
  the first `{` on, a directive that selects lines.
-/
import DocSite.Text.Blank
import DocSite.Text.Split
import DocSite.Text.Word

namespace DocSite.CodeClass

open DocSite.Text

/-- The language of code that names none. -/
def defaultLanguage : String := "text"

/-- The characters of a language name. -/
def isLanguageChar (c : Char) : Bool := isWordChar c || c == '#' || c == '+' || c == '.' || c == '-'

/-- The language named at the start of a text. -/
def languageHere? (s : List Char) : Option (List Char) :=
  (dropPrefix? "language-".toList s).bind fun rest =>
    let name := rest.takeWhile isLanguageChar
    if name.isEmpty then none else some name

/-- The first language named at the start of a word. `atStart` tells whether a
    word may start here. -/
def findLanguage? (atStart : Bool) : List Char → Option (List Char)
  | [] => none
  | c :: rest =>
    match if atStart then languageHere? (c :: rest) else none with
    | some name => some name
    | none => findLanguage? (isBlank c) rest

/-- The language that a class names. -/
def language (cls : Option String) : String :=
  match cls.bind fun c => findLanguage? true (c.toList.takeWhile (· != '{')) with
  | some name => String.ofList name
  | none => defaultLanguage

/-- The directive of a class: its text from the first `{` on. -/
def directive? (cls : Option String) : Option String :=
  cls.bind fun c =>
    match c.toList.dropWhile (· != '{') with
    | [] => none
    | s => some (String.ofList s)

end DocSite.CodeClass
