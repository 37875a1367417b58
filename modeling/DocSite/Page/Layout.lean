/-
  DocSite.Page.Layout

  The draft of a document tree. Block elements stand on lines of their own and
  nested blocks are indented by two spaces. Footnotes go to one section at the
  end of their document, items of tight lists lose the elements of their
  paragraphs, and a quote that begins with a bold label becomes an admonition.
-/
import DocSite.Link
import DocSite.Page.CodeClass
import DocSite.Page.Draft
import DocSite.Text.Lowercase

namespace DocSite

open DocSite.Text

/-! ## Footnotes -/

/-- Whether a node is the body of a footnote. -/
def Node.isFootnote (node : Node) : Bool :=
  match node.kind with
  | .footnoteDefinition .. => true
  | _ => false

namespace Layout

open Draft (block indentedBlock)

/-- The target of the link back to the `n`-th reference of a footnote. -/
def backTarget (name : String) (n : Nat) : String :=
  if n = 1 then "#fnref-" ++ name else "#fnref-" ++ name ++ "-" ++ String.ofList (decimal n)

/-- The link back to the `n`-th reference of a footnote. -/
def backLink (name : String) (n : Nat) : Draft :=
  .element "a" (.ofList [("href", backTarget name n), ("class", "footnote-backref")])
    [.text "↩"]

/-- The line of links back to all references of a footnote. -/
def backLinks (name : String) (references indent : Nat) : List Draft :=
  if references = 0 then []
  else
    .pad indent
      :: ((List.range' 1 references).map (backLink name)).intersperse (.text " ")
      ++ [.newline]

/-- The section of footnotes after the body of a document. -/
def footnoteSection (notes : List Draft) (indent : Nat) : List Draft :=
  indentedBlock "section" (.ofList [("class", "footnotes")])
    (indentedBlock "ol" .empty notes (indent + 2)) indent

/-! ## Code -/

/-- A block of code. Its content is sensitive to white space, so it is never
    indented. -/
def codeBlock (cls : Option String) (code : String) : List Draft :=
  let language := CodeClass.language cls
  block "pre" .empty
    [.element "code"
      (.ofList [("class", "code-block__wrapper code-block _highlighted lang_" ++ language)])
      [.code ⟨code, language, .block, CodeClass.directive? cls⟩]]
    0

/-- Code inside text. A directive selects lines, of which a span has none. -/
def codeSpan (attributes : Attributes) (code : String) : Draft :=
  let language := CodeClass.language (attributes.get? "class")
  .element "code" (attributes.insert "class" ("code highlight language-" ++ language))
    [.code ⟨code, language, .span, none⟩]

/-! ## Links -/

/-- A hyperlink around its label. -/
def link (baseUrl : String) (attributes : Attributes) (label : List Draft) : Draft :=
  let link := Link.onPage ((attributes.get? "href").getD "") baseUrl
  let attributes := attributes.insert "href" link.href
  let attributes := if link.external then attributes.insert "data-bypass" "yes" else attributes
  let label :=
    match link.mailAddress with
    | some address => [.mailLabel address label]
    | none => label
  .element "a" attributes [.element "span" .empty label]

/-! ## Admonitions -/

/-- The kind of admonition that a bold label names. -/
def admonitionKind (label : List Char) : List Char :=
  let label := lowercase (trim label)
  match dropSuffix? [':'] label with
  | some kind => trimEnd kind
  | none => label

/-- The bold label that the content of a quote begins with. -/
def admonitionLabel? : List Node → Option Node
  | ⟨.paragraph, _, label :: _⟩ :: _ => if label.kind = .strong then some label else none
  | _ => none

/-- The attributes of an admonition: its kind goes in front of the classes. -/
def admonitionAttributes (attributes : Attributes) (label : Node) : Attributes :=
  let kind := String.ofList (admonitionKind label.innerText.toList)
  match attributes.get? "class" with
  | some cls =>
    -- A label that names no kind leaves the classes as they are.
    let cls := if kind.isEmpty then cls else kind ++ " " ++ cls
    if cls.isEmpty then attributes else attributes.insert "class" cls
  | none => if kind.isEmpty then attributes else attributes.insert "class" kind

/-- Whether a node of the kind is left out after a label: a break, or white space
    alone. -/
def isGap : NodeKind → Bool
  | .softBreak | .lineBreak => true
  | .text value => (trimStart value.toList).isEmpty
  | _ => false

/-! ## Lists -/

/-- The attributes of a list: a numbered one says where it starts, unless that
    is one. -/
def listAttributes (attributes : Attributes) (ordered : Bool) (start : Nat) : Attributes :=
  if ordered && start != 1 then attributes.insert "start" (String.ofList (decimal start))
  else attributes

/-- A list item around its content. -/
def item (attributes : Attributes) (body : List Draft) (indent : Nat) : List Draft :=
  block "li" attributes body indent

/-! ## Nodes -/

/-- HTML on lines of its own ends its last line. -/
def closeLine (html : String) : String :=
  if html.toList.getLast? = some '\n' then html else html ++ "\n"

/-- The content of an item that begins on the line of its tag. The closing tag is
    indented only if it has a line of its own. -/
def closeItem (indent : Nat) (body : List Draft) : List Draft :=
  if Draft.endLine body then body ++ [.pad indent] else body

mutual

/-- The draft of a node at an indentation. -/
def node (baseUrl : String) (indent : Nat) : Node → List Draft
  | ⟨kind, attributes, children⟩ =>
    match kind with
    | .document =>
      blocks baseUrl indent children
        ++ (if children.any Node.isFootnote then
              footnoteSection (notes baseUrl (indent + 4) children) indent
            else [])
    | .header level rawText =>
      [.heading ⟨level, rawText, attributes, children, indent⟩
        (nodes baseUrl (indent + 2) children)]
    | .codeBlock code => codeBlock (attributes.get? "class") code
    | .codeSpan code => [codeSpan attributes code]
    | .link => [link baseUrl attributes (nodes baseUrl (indent + 2) children)]
    | .blockquote =>
      match admonitionLabel? children with
      | some label =>
        indentedBlock "aside" (admonitionAttributes attributes label)
          (labelled baseUrl (indent + 2) children) indent
      | none => indentedBlock "aside" attributes (nodes baseUrl (indent + 2) children) indent
    | .paragraph => block "p" attributes (nodes baseUrl (indent + 2) children) indent
    | .list ordered start tight =>
      indentedBlock (if ordered then "ol" else "ul") (listAttributes attributes ordered start)
        (items baseUrl tight (indent + 2) children) indent
    | .listItem => item attributes (itemBody baseUrl false indent children) indent
    | .table => indentedBlock "table" attributes (nodes baseUrl (indent + 2) children) indent
    | .tableHead => indentedBlock "thead" attributes (nodes baseUrl (indent + 2) children) indent
    | .tableBody => indentedBlock "tbody" attributes (nodes baseUrl (indent + 2) children) indent
    | .tableRow => indentedBlock "tr" attributes (nodes baseUrl (indent + 2) children) indent
    | .tableCell header =>
      block (if header then "th" else "td") attributes (nodes baseUrl (indent + 2) children)
        indent
    | .footnoteDefinition name references =>
      indentedBlock "li" (attributes.insert "id" ("fn-" ++ name))
        (nodes baseUrl (indent + 2) children ++ backLinks name references (indent + 2)) indent
    | .text value => [.text value]
    | .strong => [.element "strong" attributes (nodes baseUrl (indent + 2) children)]
    | .emphasis => [.element "em" attributes (nodes baseUrl (indent + 2) children)]
    | .strikethrough => [.element "del" attributes (nodes baseUrl (indent + 2) children)]
    | .anchor => [.element "a" attributes (nodes baseUrl (indent + 2) children)]
    | .image => [.settled (.void "img" attributes)]
    | .entity name => [.settled (.reference name)]
    | .htmlBlock html => [.raw (closeLine html)]
    | .htmlInline html => [.raw html]
    | .softBreak => [.newline]
    | .lineBreak => [.settled (.void "br" .empty), .newline]
    | .thematicBreak => [.pad indent, .settled (.void "hr" attributes), .newline]

/-- The drafts of nodes one after the other. -/
def nodes (baseUrl : String) (indent : Nat) : List Node → List Draft
  | [] => []
  | child :: rest => node baseUrl indent child ++ nodes baseUrl indent rest

/-- The drafts of the children of a node. -/
def inner (baseUrl : String) (indent : Nat) : Node → List Draft
  | ⟨_, _, children⟩ => nodes baseUrl (indent + 2) children

/-- The drafts of the nodes that are not footnotes. -/
def blocks (baseUrl : String) (indent : Nat) : List Node → List Draft
  | [] => []
  | child :: rest =>
    (if child.isFootnote then [] else node baseUrl indent child) ++ blocks baseUrl indent rest

/-- The drafts of the footnotes. -/
def notes (baseUrl : String) (indent : Nat) : List Node → List Draft
  | [] => []
  | child :: rest =>
    (if child.isFootnote then node baseUrl indent child else []) ++ notes baseUrl indent rest

/-- The drafts of the children of a list. -/
def items (baseUrl : String) (tight : Bool) (indent : Nat) : List Node → List Draft
  | [] => []
  | child :: rest =>
    (if child.kind = .listItem then listItem baseUrl tight indent child
      else node baseUrl indent child) ++ items baseUrl tight indent rest

/-- The draft of an item of a list. -/
def listItem (baseUrl : String) (tight : Bool) (indent : Nat) : Node → List Draft
  | ⟨_, attributes, children⟩ => item attributes (itemBody baseUrl tight indent children) indent

/-- The content of an item. Under a tight item that begins with a paragraph it
    begins on the line of the item's tag, otherwise on a line of its own. -/
def itemBody (baseUrl : String) (tight : Bool) (indent : Nat) : List Node → List Draft
  | [] => []
  | child :: rest =>
    if tight && child.kind = .paragraph then
      closeItem indent
        (inner baseUrl indent child ++ (if rest.isEmpty then [] else [.newline])
          ++ inlineItem baseUrl tight indent rest)
    else .newline :: (node baseUrl (indent + 2) child ++ blockItem baseUrl tight indent rest
      ++ [.pad indent])

/-- What follows in an item that begins on the line of its tag. -/
def inlineItem (baseUrl : String) (tight : Bool) (indent : Nat) : List Node → List Draft
  | [] => []
  | child :: rest =>
    (if tight && child.kind = .paragraph then
        inner baseUrl indent child ++ (if rest.isEmpty then [] else [.newline])
      else node baseUrl (indent + 2) child) ++ inlineItem baseUrl tight indent rest

/-- What follows in an item that begins on a line of its own. -/
def blockItem (baseUrl : String) (tight : Bool) (indent : Nat) : List Node → List Draft
  | [] => []
  | child :: rest =>
    (if tight && child.kind = .paragraph then
        .pad (indent + 2) :: (inner baseUrl indent child ++ [.newline])
      else node baseUrl (indent + 2) child) ++ blockItem baseUrl tight indent rest

/-- The content of an admonition: its first paragraph loses the label, and is
    left out when nothing else is in it. -/
def labelled (baseUrl : String) (indent : Nat) : List Node → List Draft
  | [] => []
  | paragraph :: rest => labelledParagraph baseUrl indent paragraph ++ nodes baseUrl indent rest

/-- The first paragraph of an admonition. -/
def labelledParagraph (baseUrl : String) (indent : Nat) : Node → List Draft
  | ⟨_, attributes, content⟩ =>
    -- The label alone makes no paragraph.
    if content.tail.all (isGap ·.kind) then []
    else block "p" attributes (afterLabel baseUrl (indent + 2) content) indent

/-- What follows the label of a paragraph. -/
def afterLabel (baseUrl : String) (indent : Nat) : List Node → List Draft
  | [] => []
  | _ :: rest => afterGaps baseUrl indent rest

/-- What follows the breaks and the white space after a label. -/
def afterGaps (baseUrl : String) (indent : Nat) : List Node → List Draft
  | [] => []
  | child :: rest =>
    if isGap child.kind then afterGaps baseUrl indent rest
    else
      match child.kind with
      | .text value =>
        .text (String.ofList (trimStart value.toList)) :: nodes baseUrl indent rest
      | _ => node baseUrl indent child ++ nodes baseUrl indent rest

end

end Layout

/-- The draft of a document. -/
def Draft.ofNode (baseUrl : String) (document : Node) : List Draft :=
  Layout.node baseUrl 0 document

end DocSite
