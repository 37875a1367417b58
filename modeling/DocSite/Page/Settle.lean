/-
  DocSite.Page.Settle

  Settling a draft, in the order in which its pieces are printed. A heading gets
  its identifier and is recorded before its content is settled; code goes to the
  backend. The first code element that fails ends the page, and identifiers
  issued until then stay issued.
-/
import DocSite.Heading.Ids
import DocSite.Page.Draft
import DocSite.Page.Settings

namespace DocSite

/-- Why a document has no page. -/
inductive RenderError where
  | malformedDirective (error : MalformedDirective)
  | highlight (error : HighlightError)
  deriving Repr, DecidableEq

/-- The error in words. -/
def RenderError.message : RenderError → String
  | malformedDirective error => error.message
  | highlight error => "Syntax highlighting failed: " ++ error.message

/-- A heading in the table of contents of its page. -/
structure TocEntry where
  /-- The level in the document, before any offset. -/
  level : Nat
  id : String
  /-- The content of the heading. -/
  content : List Node

/-- The plain text of an entry. -/
def TocEntry.text (entry : TocEntry) : String := Node.innerTextAll entry.content

/-! ## Progress -/

/-- What has been recorded while settling a page. -/
structure Progress where
  ids : HeadingIds
  toc : List TocEntry
  /-- The text of the first heading of level one. -/
  title : Option String

namespace Progress

/-- The start of a page. -/
def start (ids : HeadingIds) : Progress := ⟨ids, [], none⟩

/-- The identifier of a heading: its own, or a generated one. -/
def identify (settings : RenderSettings) (spot : HeadingSpot) (p : Progress) :
    Option String × Progress :=
  match spot.attributes.get? "id" with
  | some id => (some id, p)
  | none =>
    if settings.autoIds then
      let (id, ids) := p.ids.generate spot.rawText.toList
      (some (String.ofList id), { p with ids })
    else (none, p)

/-- Records a heading in the table of contents if it belongs there. -/
def list (settings : RenderSettings) (spot : HeadingSpot) (id : Option String) (p : Progress) :
    Progress :=
  match id with
  | some id =>
    if settings.inToc spot.level (spot.attributes.get? "class") then
      { p with toc := p.toc ++ [⟨spot.level, id, spot.content⟩] }
    else p
  | none => p

/-- Takes the first heading of level one for the title. -/
def entitle (spot : HeadingSpot) (p : Progress) : Progress :=
  if spot.level = 1 ∧ p.title = none then
    { p with title := some (String.ofList (Text.trim spot.rawText.toList)) }
  else p

/-- Visits a heading: its identifier, and what is recorded then. -/
def visit (settings : RenderSettings) (spot : HeadingSpot) (p : Progress) :
    Option String × Progress :=
  let (id, p) := p.identify settings spot
  (id, (p.list settings spot id).entitle spot)

end Progress

/-! ## Settled pieces -/

/-- The HTML of a heading with its identifier: an anchor before it, and a
    permalink in it down to the deepest level that has one. -/
def headingHtml (settings : RenderSettings) (spot : HeadingSpot) (id : Option String)
    (body : List Html) : List Html :=
  let level := settings.outputLevel spot.level
  let tag := "h" ++ String.ofList (Text.decimal level)
  match id with
  | none => Html.block tag spot.attributes body spot.indent
  | some id =>
    let permalink :=
      -- Deeper headings can be linked to but show no permalink.
      if level ≤ settings.maxAnchoredLevel then
        [Html.element "a" (.ofList [("href", "#" ++ id), ("class", "anchor-link")]) []]
      else []
    Html.block "a" (.ofList [("name", id), ("class", "elem-anchor")]) [] spot.indent
      ++ Html.block tag (spot.attributes.insert "id" id) (body ++ permalink) spot.indent

/-- The answer of a highlighter to a code element. -/
def CodeSpot.highlight (highlighter : Highlighter) (spot : CodeSpot) :
    Except RenderError String :=
  match LineSelection.parse spot.directive with
  | .error e => .error (.malformedDirective e)
  | .ok lines =>
    match highlighter.highlight ⟨spot.code, spot.language, spot.mode, lines⟩ with
    | .error e => .error (.highlight e)
    | .ok html => .ok html

/-! ## Settling -/

/-- A step that may fail; what was recorded before a failure stays recorded. -/
abbrev Settle := ExceptT RenderError (StateM Progress)

mutual

/-- Settles a piece of a page. -/
def Draft.settle (settings : RenderSettings) (highlighter : Highlighter) :
    Draft → Settle (List Html)
  | .settled html => pure [html]
  | .element tag attributes body => do
    let body ← settleAll settings highlighter body
    pure [.element tag attributes body]
  | .code spot => do
    let html ← ExceptT.mk (pure (spot.highlight highlighter))
    pure [.raw html]
  | .heading spot body => do
    -- Recorded first: a failure inside the heading keeps its identifier issued.
    let id ← modifyGet (Progress.visit settings spot)
    let body ← settleAll settings highlighter body
    pure (headingHtml settings spot id body)
  | .mailLabel address body => do
    let label ← settleAll settings highlighter body
    -- Only a label that shows the address gives it away; any other is kept.
    if Html.printAll label = address then
      pure [.raw (String.ofList (Html.obfuscate address.toList))]
    else pure label

/-- Settles pieces one after the other. -/
def settleAll (settings : RenderSettings) (highlighter : Highlighter) :
    List Draft → Settle (List Html)
  | [] => pure []
  | piece :: rest => do
    let here ← piece.settle settings highlighter
    let later ← settleAll settings highlighter rest
    pure (here ++ later)

end

end DocSite
