/-
  DocSite.Html.Basic

  HTML as a tree. Printing is the only place where a tree becomes text, so text
  and attribute values are escaped there and nowhere else; HTML that comes from
  elsewhere is `raw` and stands as it is.
-/
import DocSite.Document.Attributes
import DocSite.Html.Escape

namespace DocSite

/-- A piece of HTML. -/
inductive Html where
  /-- Text between tags. -/
  | text (s : String)
  /-- HTML that stands as it is. -/
  | raw (s : String)
  /-- The character reference `&name;`. -/
  | reference (name : String)
  | element (tag : String) (attributes : Attributes) (body : List Html)
  /-- An element without content, closed in its own tag. -/
  | void (tag : String) (attributes : Attributes)

namespace Html

/-- An attribute inside a tag. -/
def printAttribute (key value : String) : String :=
  " " ++ key ++ "=\"" ++ String.ofList (escapeAttribute value.toList) ++ "\""

/-- The attributes inside a tag, in order. -/
def printEntries : List (String × String) → String
  | [] => ""
  | (key, value) :: rest => printAttribute key value ++ printEntries rest

/-- The tag that opens an element. -/
def openTag (tag : String) (attributes : Attributes) : String :=
  "<" ++ tag ++ printEntries attributes.entries ++ ">"

/-- The tag that closes an element. -/
def closeTag (tag : String) : String := "</" ++ tag ++ ">"

mutual

/-- The text of a piece of HTML. -/
def print : Html → String
  | .text s => String.ofList (escapeText s.toList)
  | .raw s => s
  | .reference name => "&" ++ name ++ ";"
  | .element tag attributes body => openTag tag attributes ++ printAll body ++ closeTag tag
  | .void tag attributes => "<" ++ tag ++ printEntries attributes.entries ++ " />"

/-- The text of pieces of HTML one after the other. -/
def printAll : List Html → String
  | [] => ""
  | piece :: rest => piece.print ++ printAll rest

end

/-! ## Layout -/

/-- White space before an element. -/
def pad (indent : Nat) : Html := .text (String.ofList (List.replicate indent ' '))

/-- The end of a line. -/
def newline : Html := .text "\n"

/-- An element on a line of its own. -/
def block (tag : String) (attributes : Attributes) (body : List Html) (indent : Nat) :
    List Html :=
  [pad indent, .element tag attributes body, newline]

end Html

end DocSite
