/-
  DocSite.Heading.Slug

  Slugs: the words of a text in lower case, joined by single dashes. Letters,
  digits and `_` make words; every run of other characters separates them.
-/
import DocSite.Text.Lowercase
import DocSite.Text.Word

namespace DocSite.Heading

open DocSite.Text

/-- The characters that slugs keep. -/
def isSlugChar (c : Char) : Bool := isAlphanumeric c || c == '_'

/-- Writes the words of a text after what has been written so far. A dash is
    due when a word has been written and a separator follows it. -/
def slugWords (started due : Bool) : List Char → List Char
  | [] => []
  | c :: rest =>
    if isSlugChar c then
      if started && due then '-' :: c :: slugWords true false rest
      else c :: slugWords true false rest
    else slugWords started true rest

/-- The slug of a text. -/
def slugify (s : List Char) : List Char := slugWords false false (lowercase s)

end DocSite.Heading
