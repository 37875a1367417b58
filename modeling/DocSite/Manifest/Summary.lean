/-
  DocSite.Manifest.Summary

  The navigation manifest of a summary document. Lists at the top level hold the
  entries, headings of the second level separate sections, and all else counts
  for nothing.
-/
import DocSite.Document.Describe
import DocSite.Link
import DocSite.Manifest.Item
import DocSite.Text.Blank

namespace DocSite

/-- The level of the headings that separate sections. -/
def sectionLevel : Nat := 2

/-- Why a document is no summary. -/
inductive SummaryError where
  /-- A list holds a node that is no item. -/
  | notAnItem (kind : NodeKind)
  /-- An item does not begin with a paragraph that has content. -/
  | noParagraph
  /-- An item with the given text begins with a node of the given kind. -/
  | badLead (kind : NodeKind) (text : String)
  /-- The extension of a link's target cannot be cut off. -/
  | badTarget (target : String)
  deriving Repr, DecidableEq

/-- A text without the white space at its ends. -/
def trimmed (s : String) : String := String.ofList (Text.trim s.toList)

namespace SummaryError

/-- What is wrong with the document. -/
def reason : SummaryError → String
  | .notAnItem kind => "summary list contains " ++ kind.describe ++ ", expected list items"
  | .noParagraph => "list item does not start with a paragraph"
  | .badLead kind text =>
    "list item starts with " ++ kind.describe ++ ", expected text or a link (in '"
      ++ trimmed text ++ "')"
  | .badTarget target => "cannot cut the extension off '" ++ target ++ "'"

/-- The message of the error. -/
def message (e : SummaryError) : String := "Invalid summary shape: " ++ e.reason

end SummaryError

/-! ## Entries -/

/-- The id of the page that a target leads to: the target without its extension
    and without a slash at its start. -/
def pageId? (target : List Char) : Option (List Char) :=
  (Link.stripExtension? target).map fun stem => (Text.dropPrefix? ['/'] stem).getD stem

/-- The entry of a link. -/
def ManifestItem.ofLink (link : Node) : Except SummaryError ManifestItem :=
  let target := (link.attribute? "href").getD ""
  match pageId? target.toList with
  | some id =>
    .ok { ManifestItem.page (String.ofList id) (trimmed link.innerText) with
      isExternal := Link.isExternal target.toList }
  | none => .error (.badTarget target)

/-- The node that an item begins with: the first one of the paragraph that is its
    first child. -/
def leadOf? : List Node → Option Node
  | ⟨.paragraph, _, lead :: _⟩ :: _ => some lead
  | _ => none

/-- The entry of an item with the given children, without the pages below it. -/
def entryOf (children : List Node) : Except SummaryError ManifestItem :=
  match leadOf? children with
  | none => .error .noParagraph
  | some lead =>
    match lead.kind with
    | .text value => .ok (.placeholder (trimmed value))
    | .link => ManifestItem.ofLink lead
    | kind => .error (.badLead kind (Node.innerTextAll children))

mutual

/-- The entry of a child of a list. -/
def itemEntry : Node → Except SummaryError ManifestItem
  | ⟨kind, _, children⟩ => do
    if kind ≠ .listItem then throw (.notAnItem kind)
    let entry ← entryOf children
    match children with
    | [] => pure entry
    | _ :: rest => do pure { entry with pages := ← nestedEntries rest }

/-- The entries of the children of a list. -/
def itemEntries : List Node → Except SummaryError (List ManifestItem)
  | [] => pure []
  | node :: rest => do
    let entry ← itemEntry node
    let entries ← itemEntries rest
    pure (entry :: entries)

/-- The entries of the lists among nodes, when there is a list. -/
def nestedEntries : List Node → Except SummaryError (Option (List ManifestItem))
  | [] => pure none
  | ⟨.list .., _, children⟩ :: rest => do
    let entries ← itemEntries children
    let more ← nestedEntries rest
    pure (some (entries ++ more.getD []))
  | _ :: rest => nestedEntries rest

end

/-! ## Documents -/

/-- The entries of nodes at the top level of a summary. -/
def topEntries : List Node → Except SummaryError (List ManifestItem)
  | [] => pure []
  | ⟨.list .., _, children⟩ :: rest => do
    let entries ← itemEntries children
    let more ← topEntries rest
    pure (entries ++ more)
  | ⟨.header level rawText, _, _⟩ :: rest => do
    let more ← topEntries rest
    pure (if level = sectionLevel then .header (trimmed rawText) :: more else more)
  | _ :: rest => topEntries rest

/-- The manifest of a summary document. -/
def manifestOf (summary : Node) : Except SummaryError (List ManifestItem) :=
  collapseEmptySections <$> topEntries summary.children

end DocSite
