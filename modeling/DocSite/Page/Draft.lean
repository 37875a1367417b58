/-
  DocSite.Page.Draft

  A page before its open questions are settled. A draft is HTML in which the
  highlighting of code, the identifiers of headings and the labels of mail links
  are still open: they depend on the backend and on what came before.
-/
import DocSite.Document.Node
import DocSite.Highlight.Backend
import DocSite.Html.Basic

namespace DocSite

/-- A code element whose highlighting is open. -/
structure CodeSpot where
  code : String
  language : String
  mode : HighlightMode
  /-- The directive that selects lines, as its author wrote it. -/
  directive : Option String
  deriving Repr, DecidableEq

/-- A heading whose identifier is open. -/
structure HeadingSpot where
  level : Nat
  rawText : String
  attributes : Attributes
  /-- The heading's content, for the table of contents. -/
  content : List Node
  indent : Nat

/-- A piece of a page. -/
inductive Draft where
  /-- HTML that is settled. -/
  | settled (html : Html)
  | element (tag : String) (attributes : Attributes) (body : List Draft)
  | code (spot : CodeSpot)
  | heading (spot : HeadingSpot) (body : List Draft)
  /-- The label of a link to a mail address, which is obfuscated when it shows
      the address. -/
  | mailLabel (address : String) (body : List Draft)

namespace Draft

/-- Text between tags. -/
def text (s : String) : Draft := .settled (.text s)

/-- HTML that stands as it is. -/
def raw (s : String) : Draft := .settled (.raw s)

/-- White space before an element. -/
def pad (indent : Nat) : Draft := .settled (.pad indent)

/-- The end of a line. -/
def newline : Draft := .settled .newline

/-- An element on a line of its own. -/
def block (tag : String) (attributes : Attributes) (body : List Draft) (indent : Nat) :
    List Draft :=
  [pad indent, .element tag attributes body, newline]

/-- An element around lines of its own. -/
def indentedBlock (tag : String) (attributes : Attributes) (body : List Draft) (indent : Nat) :
    List Draft :=
  block tag attributes (newline :: (body ++ [pad indent])) indent

/-! ## Ends of lines -/

/-- Whether a piece ends a line, unless it prints nothing. Elements end with
    their tags and headings with a newline. -/
def endsLine? : Draft → Option Bool
  | .settled (.text s) | .settled (.raw s) => s.toList.getLast?.map (· == '\n')
  | .settled _ => some false
  | .element .. | .code _ | .mailLabel .. => some false
  | .heading .. => some true

/-- Whether the last piece that prints something ends a line. -/
def endLine? : List Draft → Option Bool
  | [] => none
  | piece :: rest => (endLine? rest).or piece.endsLine?

/-- Whether pieces end a line. Pieces that print nothing end none. -/
def endLine (pieces : List Draft) : Bool := (endLine? pieces).getD false

end Draft

end DocSite
