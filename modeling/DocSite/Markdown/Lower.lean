/-
  DocSite.Markdown.Lower

  The document tree of parsed Markdown. Headings may end with a marker such as
  `{#id}` that gives them an identifier, task items begin with a checkbox, and
  table cells carry the alignment of their columns.
-/
import DocSite.Document.Node
import DocSite.Markdown.Document
import DocSite.Text.Blank
import DocSite.Text.Word

namespace DocSite.Markdown

open DocSite.Text

/-! ## Headings -/

/-- A character of an explicit identifier. -/
def isIdChar (c : Char) : Bool := isWordChar c || c == '.' || c == '-'

/-- The text before a marker `{#id}` at its end and the identifier, which begins
    with an ASCII letter. White space around the marker belongs to neither. -/
def idMarker? (s : List Char) : Option (List Char × List Char) :=
  match (trimEnd s).reverse with
  | '\x7d' :: rest =>
    let id := (rest.takeWhile isIdChar).reverse
    match rest.dropWhile isIdChar with
    | '#' :: '\x7b' :: before =>
      -- An identifier that begins otherwise leaves the text as it is.
      if id.head?.any Char.isAlpha then some (trimEnd before.reverse, id) else none
    | _ => none
  | _ => none

/-- Takes the marker off the last text of a heading. -/
def takeIdMarker (children : List Node) : List Node × Option String :=
  match children.getLast? with
  | some last =>
    match last.kind with
    | .text value =>
      match idMarker? value.toList with
      | some (text, id) =>
        (children.dropLast ++ [{ last with kind := .text (String.ofList text) }],
          some (String.ofList id))
      | none => (children, none)
    | _ => (children, none)
  | none => (children, none)

/-- Drops an empty text at the end. -/
def dropEmptyText (children : List Node) : List Node :=
  match children.getLast? with
  | some last => if last.kind = .text "" then children.dropLast else children
  | none => children

/-- A heading with its explicit identifier, if it has one. -/
def lowerHeading (level : Nat) (children : List Node) : Node :=
  let (children, id) := takeIdMarker children
  let heading := Node.heading level (dropEmptyText children)
  { heading with attributes := heading.attributes.insertSome "id" id }

/-! ## Task items -/

/-- The checkbox of a task item. -/
def checkbox (done : Bool) : Node :=
  .leaf (.htmlInline
    (if done then "<input type=\"checkbox\" checked=\"\" disabled=\"\" /> "
      else "<input type=\"checkbox\" disabled=\"\" /> "))

/-- A paragraph whose first text has no white space at its start. -/
def trimFirstText : List Node → List Node
  | [] => []
  | first :: rest =>
    match first.kind with
    | .text value =>
      { first with kind := .text (String.ofList (trimStart value.toList)) } :: rest
    | _ => first :: rest

/-- A list item that begins with a checkbox, in a paragraph of its own unless
    there is one already. -/
def lowerTask (done : Bool) (children : List Node) : Node :=
  let children :=
    match children with
    | ⟨.paragraph, attributes, content⟩ :: rest =>
      ⟨.paragraph, attributes, checkbox done :: trimFirstText content⟩ :: rest
    | _ => .ofKind .paragraph [checkbox done] :: children
  (Node.ofKind .listItem children).withAttribute "class" "task-list-item"

/-! ## Tables -/

/-- The style of a cell in a column. -/
def Alignment.style? : Alignment → Option String
  | .none => Option.none
  | .left => some "text-align: left"
  | .center => some "text-align: center"
  | .right => some "text-align: right"

/-- A cell of a column. -/
def lowerCell (header : Bool) (alignment : Alignment) (content : List Node) : Node :=
  ⟨.tableCell header, Attributes.empty.insertSome "style" alignment.style?, content⟩

/-- A row whose cells are aligned with the columns. -/
def lowerRow (header : Bool) : List Alignment → List (List Node) → List Node
  | alignment :: alignments, cell :: cells =>
    lowerCell header alignment cell :: lowerRow header alignments cells
  | [], cell :: cells => lowerCell header .none cell :: lowerRow header [] cells
  | _, [] => []

/-! ## Footnotes -/

/-- A character that stands in an address as it is. -/
def isHrefChar (c : Char) : Bool := c.isAlphanum || "-_.+!*(),%#@?=;:/$~".toList.contains c

/-- A byte in an address. -/
def percentByte (b : UInt8) : List Char :=
  let digit := fun n : Nat => ("0123456789ABCDEF".toList[n]?).getD '0'
  ['%', digit (b.toNat / 16), digit (b.toNat % 16)]

/-- A text as part of an address in an attribute. -/
def escapeHref (s : List Char) : List Char :=
  s.flatMap fun c =>
    if isHrefChar c then [c]
    else if c = '&' then "&amp;".toList
    else if c = '\'' then "&#x27;".toList
    else (String.singleton c).toUTF8.toList.flatMap percentByte

/-- The HTML of a reference to a footnote. -/
def footnoteRefHtml (name : String) (number ordinal : Nat) : String :=
  let href := String.ofList (escapeHref name.toList)
  let id := "fnref-" ++ name ++
    (if 1 < ordinal then "-" ++ String.ofList (decimal ordinal) else "")
  "<sup class=\"footnote-ref\"><a href=\"#fn-" ++ href ++ "\" id=\""
    ++ String.ofList (escapeHref id.toList) ++ "\" data-footnote-ref>"
    ++ String.ofList (decimal number) ++ "</a></sup>"

/-! ## Inlines -/

mutual

/-- The node of an inline. -/
def Inline.lower : Inline → Node
  | .text value => .ofText value
  | .code literal => .leaf (.codeSpan literal)
  | .html literal => .leaf (.htmlInline literal)
  | .softBreak => .leaf .softBreak
  | .lineBreak => .leaf .lineBreak
  | .emphasis body => .ofKind .emphasis (lowerAll body)
  | .strong body => .ofKind .strong (lowerAll body)
  | .strikethrough body => .ofKind .strikethrough (lowerAll body)
  | .link url title body =>
    let link := Node.linkTo url (lowerAll body)
    if title.isEmpty then link else link.withAttribute "title" title
  | .image url title body =>
    let alt := Node.innerTextAll (lowerAll body)
    let attributes := Attributes.ofList [("src", url), ("alt", alt)]
    ⟨.image, if title.isEmpty then attributes else attributes.insert "title" title, []⟩
  | .footnoteRef name number ordinal =>
    .leaf (.htmlInline (footnoteRefHtml name number ordinal))

/-- The nodes of inlines. -/
def lowerAll : List Inline → List Node
  | [] => []
  | inline :: rest => inline.lower :: lowerAll rest

end

/-! ## Blocks -/

/-- The class of a code block: the first word of what describes it. -/
def codeClass? (info : String) : Option String :=
  (words info.toList).head?.map fun word => "language-" ++ String.ofList word

mutual

/-- The node of a block. -/
def Block.lower : Block (List Inline) → Node
  | .paragraph content => .ofKind .paragraph (lowerAll content)
  | .heading level content => lowerHeading level (lowerAll content)
  | .quote body => .ofKind .blockquote (lowerBlocks body)
  | .list ordered start tight items => .ofKind (.list ordered start tight) (lowerItems items)
  | .code info literal =>
    ⟨.codeBlock literal, Attributes.empty.insertSome "class" (codeClass? info), []⟩
  | .html literal => .leaf (.htmlBlock literal)
  | .rule => .leaf .thematicBreak
  | .table alignments head rows =>
    let head := lowerRow true alignments (head.map lowerAll)
    let rows := rows.map fun row => Node.ofKind .tableRow (lowerRow false alignments (row.map lowerAll))
    .ofKind .table (.ofKind .tableHead [.ofKind .tableRow head]
      :: if rows.isEmpty then [] else [.ofKind .tableBody rows])
  | .footnote name references body =>
    .ofKind (.footnoteDefinition name references) (lowerBlocks body)

/-- The node of an item. -/
def Item.lower : Item (List Inline) → Node
  | .mk none body => .ofKind .listItem (lowerBlocks body)
  | .mk (some done) body => lowerTask done (lowerBlocks body)

/-- The nodes of blocks. -/
def lowerBlocks : List (Block (List Inline)) → List Node
  | [] => []
  | block :: rest => block.lower :: lowerBlocks rest

/-- The nodes of items. -/
def lowerItems : List (Item (List Inline)) → List Node
  | [] => []
  | item :: rest => item.lower :: lowerItems rest

end

/-- The document tree of a parsed document. -/
def Document.lower (document : Document) : Node := .ofKind .document (lowerBlocks document)

end DocSite.Markdown

namespace DocSite

/-- The document tree of Markdown text. -/
def Node.ofMarkdown (text : String) : Node := (Markdown.Document.ofText text.toList).lower

end DocSite
