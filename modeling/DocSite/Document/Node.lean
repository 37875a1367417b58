/-
  DocSite.Document.Node

  The document tree. Each kind of node carries the data that has a meaning for
  it; all else is in the attributes. Any kind may have children.
-/
import DocSite.Document.Attributes
import DocSite.Html.Entity

namespace DocSite

/-- What a node is. -/
inductive NodeKind where
  | document
  /-- A heading of a level, with its plain text. -/
  | header (level : Nat) (rawText : String)
  | paragraph
  /-- A bullet or numbered list; paragraphs of a tight list have no element. -/
  | list (ordered : Bool) (start : Nat) (tight : Bool)
  | listItem
  | table
  | tableHead
  | tableBody
  | tableRow
  | tableCell (header : Bool)
  /-- The body of a footnote and the number of references to it. -/
  | footnoteDefinition (name : String) (references : Nat)
  /-- A hyperlink; its target is the attribute `href`. -/
  | link
  | image
  | text (value : String)
  | strong
  | emphasis
  | strikethrough
  /-- A block of code; its language is in the attribute `class`. -/
  | codeBlock (code : String)
  | codeSpan (code : String)
  | blockquote
  | anchor
  /-- A character reference by name, such as `amp` or `#8212`. -/
  | entity (name : String)
  /-- HTML that stands as it is, on lines of its own. -/
  | htmlBlock (html : String)
  /-- HTML that stands as it is, inside text. -/
  | htmlInline (html : String)
  | softBreak
  | lineBreak
  | thematicBreak
  deriving Repr, DecidableEq

/-- A node of the document tree. -/
structure Node where
  kind : NodeKind
  attributes : Attributes
  children : List Node

namespace Node

/-- A node without attributes. -/
def ofKind (kind : NodeKind) (children : List Node) : Node := ⟨kind, .empty, children⟩

/-- A node without attributes and children. -/
def leaf (kind : NodeKind) : Node := ofKind kind []

/-- Sets an attribute. -/
def withAttribute (node : Node) (key value : String) : Node :=
  { node with attributes := node.attributes.insert key value }

/-- The value of an attribute. -/
def attribute? (node : Node) (key : String) : Option String := node.attributes.get? key

/-- The first child. -/
def firstChild? (node : Node) : Option Node := node.children.head?

/-! ## Text -/

/-- The text a node of this kind has of its own: literal text, what a character
    reference stands for, and the white space of a break. -/
def ownText : NodeKind → String
  | .text value | .codeSpan value | .codeBlock value => value
  | .entity name => String.ofList (Html.resolveEntity name.toList)
  | .softBreak => " "
  | .lineBreak => "\n"
  | _ => ""

mutual

/-- The text of a subtree without its markup. -/
def innerText : Node → String
  | ⟨kind, _, children⟩ => ownText kind ++ innerTextAll children

/-- The text of nodes one after the other. -/
def innerTextAll : List Node → String
  | [] => ""
  | node :: rest => node.innerText ++ innerTextAll rest

end

/-- A heading whose plain text is that of its children. -/
def heading (level : Nat) (children : List Node) : Node :=
  .ofKind (.header level (innerTextAll children)) children

/-- Text. -/
def ofText (value : String) : Node := leaf (.text value)

/-- A link to a target. -/
def linkTo (href : String) (children : List Node) : Node :=
  (ofKind .link children).withAttribute "href" href

end Node

end DocSite
