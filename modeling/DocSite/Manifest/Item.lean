/-
  DocSite.Manifest.Item

  Entries of the navigation manifest: section headers, pages with the pages
  below them, and entries without a page.
-/
namespace DocSite

/-- The kind of an entry that is no page. -/
inductive ItemKind where
  /-- Separates sections. -/
  | header
  /-- Has no page behind it. -/
  | placeholder
  deriving Repr, DecidableEq

/-- The name of a kind in the manifest. -/
def ItemKind.name : ItemKind → String
  | .header => "header"
  | .placeholder => "placeholder"

/-- An entry of the navigation manifest. A page has an id, a URL and no kind. -/
structure ManifestItem where
  id : Option String
  title : String
  url : Option String
  kind : Option ItemKind
  /-- Whether the entry leads outside the site. -/
  isExternal : Bool
  /-- The entries below this one. -/
  pages : Option (List ManifestItem)

namespace ManifestItem

/-- A section header. -/
def header (title : String) : ManifestItem := ⟨none, title, none, some .header, false, none⟩

/-- An entry without a page. -/
def placeholder (title : String) : ManifestItem :=
  ⟨none, title, none, some .placeholder, false, none⟩

/-- A page of the site. -/
def page (id title : String) : ManifestItem :=
  ⟨some id, title, some (id ++ ".html"), none, false, none⟩

/-- Whether an entry is a section header. -/
def isHeader (item : ManifestItem) : Bool := item.kind == some .header

end ManifestItem

/-! ## Empty sections -/

/-- Drops the headers of empty sections: of headers in a row the last one stays. -/
def collapseEmptySections : List ManifestItem → List ManifestItem
  | [] => []
  | [item] => [item]
  | item :: next :: rest =>
    if item.isHeader && next.isHeader then collapseEmptySections (next :: rest)
    else item :: collapseEmptySections (next :: rest)

end DocSite
