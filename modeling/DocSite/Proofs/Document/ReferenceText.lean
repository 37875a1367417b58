/-
  DocSite.Proofs.Document.ReferenceText

  The text of a document as its reader should find it, told off the tree alone:
  literal text, code and what references stand for, in the order of the tree. Only
  footnotes move, to the end of their document, and only the bold label that a
  quote begins with is left out.
-/
import DocSite.Page.Layout

namespace DocSite.Node

mutual

/-- The text of a node. `leads` tells whether the node is the first child of a
    quote, where a bold label is no text of a paragraph. -/
def textFrom (leads : Bool) : Node → List Char
  | ⟨kind, _, children⟩ =>
    match kind with
    | .text value | .codeSpan value | .codeBlock value => value.toList
    | .entity name => Html.resolveEntity name.toList
    | .image | .htmlBlock _ | .htmlInline _ | .softBreak | .lineBreak | .thematicBreak => []
    | .document => textOfPart false children ++ textOfPart true children
    | .footnoteDefinition _ references =>
      textOfAll false children ++ List.replicate references '↩'
    | .blockquote => textOfAll true children
    | .paragraph => if leads then textAfterLabel children else textOfAll false children
    | _ => textOfAll false children

/-- The text of nodes one after the other. -/
def textOfAll (leads : Bool) : List Node → List Char
  | [] => []
  | first :: rest => first.textFrom leads ++ textOfAll false rest

/-- The text of the children of a document that are footnotes, or of those that
    are not. -/
def textOfPart (footnotes : Bool) : List Node → List Char
  | [] => []
  | first :: rest =>
    (if first.isFootnote = footnotes then first.textFrom false else [])
      ++ textOfPart footnotes rest

/-- The text of a paragraph without the bold label that it begins with. -/
def textAfterLabel : List Node → List Char
  | [] => []
  | first :: rest =>
    (if first.kind = .strong then [] else first.textFrom false) ++ textOfAll false rest

end

/-- The text of a document. -/
def referenceText (document : Node) : List Char := document.textFrom false

end DocSite.Node
