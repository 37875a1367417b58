/-
  DocSite.Proofs.Page.Layout

  The layout of several nodes is the layout of each of them, one after the
  other, also where items, footnotes and admonitions are laid out by functions
  of their own: what these add is white space.
-/
import DocSite.Proofs.Document.Shown
import DocSite.Proofs.Text.Blank

namespace DocSite

open DocSite.Text

/-! ## White space -/

namespace Draft

/-- Whether a piece is white space alone. -/
def isSpace : Draft → Bool
  | .settled (.text s) => s.toList.all isBlank
  | _ => false

/-- The pieces of a draft that are more than white space. -/
def content (draft : List Draft) : List Draft := draft.filter fun piece => !piece.isSpace

@[simp] theorem content_nil : content [] = [] := rfl

@[simp] theorem content_append (a b : List Draft) : content (a ++ b) = content a ++ content b :=
  List.filter_append ..

/-- White space is text. -/
theorem exists_of_isSpace {piece : Draft} (h : piece.isSpace = true) :
    ∃ s, piece = .settled (.text s) := by
  unfold isSpace at h
  split at h
  · next s => exact ⟨s, rfl⟩
  · cases h

theorem isSpace_pad (indent : Nat) : (pad indent).isSpace = true := by
  rw [pad, Html.pad, isSpace, String.toList_ofList]
  exact all_isBlank_replicate indent

theorem isSpace_newline : newline.isSpace = true := by
  decide

@[simp] theorem content_cons_pad (indent : Nat) (rest : List Draft) :
    content (pad indent :: rest) = content rest :=
  List.filter_cons_of_neg (by simp [isSpace_pad])

@[simp] theorem content_cons_newline (rest : List Draft) :
    content (newline :: rest) = content rest :=
  List.filter_cons_of_neg (by simp [isSpace_newline])

end Draft

namespace Layout

open Draft (content)

variable (baseUrl : String)

/-! ## One after the other -/

theorem nodes_eq (indent : Nat) (children : List Node) :
    nodes baseUrl indent children = children.flatMap (node baseUrl indent) := by
  induction children with
  | nil => simp [nodes]
  | cons child rest ih => rw [nodes, List.flatMap_cons, ih]

theorem inner_eq (indent : Nat) (n : Node) :
    inner baseUrl indent n = n.children.flatMap (node baseUrl (indent + 2)) := by
  cases n
  rw [inner, nodes_eq]

theorem blocks_eq (indent : Nat) (children : List Node) :
    blocks baseUrl indent children
      = (children.filter (!·.isFootnote)).flatMap (node baseUrl indent) := by
  induction children with
  | nil => simp [blocks]
  | cons child rest ih =>
    rw [blocks, ih]
    cases hf : child.isFootnote <;> simp [hf]

theorem notes_eq (indent : Nat) (children : List Node) :
    notes baseUrl indent children
      = (children.filter (·.isFootnote)).flatMap (node baseUrl indent) := by
  induction children with
  | nil => simp [notes]
  | cons child rest ih =>
    rw [notes, ih]
    cases hf : child.isFootnote <;> simp [hf]

/-! ## Items of lists -/

/-- The layout of a child of a list. -/
def entry (tight : Bool) (indent : Nat) (n : Node) : List Draft :=
  if n.kind = .listItem then item n.attributes (itemBody baseUrl tight indent n.children) indent
  else node baseUrl indent n

theorem items_eq (tight : Bool) (indent : Nat) (children : List Node) :
    items baseUrl tight indent children = children.flatMap (entry baseUrl tight indent) := by
  induction children with
  | nil => simp [items]
  | cons child rest ih =>
    rw [items, ih, List.flatMap_cons, entry]
    cases child
    rw [listItem]

/-- The layout of a child of an item: the paragraphs of a tight item are laid
    out without their element. -/
def itemChild (tight : Bool) (indent : Nat) (n : Node) : List Draft :=
  if tight && n.kind = .paragraph then n.children.flatMap (node baseUrl (indent + 2))
  else node baseUrl (indent + 2) n

theorem content_inlineItem (tight : Bool) (indent : Nat) (children : List Node) :
    content (inlineItem baseUrl tight indent children)
      = content (children.flatMap (itemChild baseUrl tight indent)) := by
  induction children with
  | nil => simp [inlineItem]
  | cons child rest ih =>
    rw [inlineItem, List.flatMap_cons, itemChild, inner_eq]
    split
    · split <;> simp [ih]
    · simp [ih]

theorem content_blockItem (tight : Bool) (indent : Nat) (children : List Node) :
    content (blockItem baseUrl tight indent children)
      = content (children.flatMap (itemChild baseUrl tight indent)) := by
  induction children with
  | nil => simp [blockItem]
  | cons child rest ih =>
    rw [blockItem, List.flatMap_cons, itemChild, inner_eq]
    split <;> simp [ih]

/-- Up to white space, the content of an item is that of its children one after
    the other, whichever way the item is laid out. -/
theorem content_itemBody (tight : Bool) (indent : Nat) (children : List Node) :
    content (itemBody baseUrl tight indent children)
      = content (children.flatMap (itemChild baseUrl tight indent)) := by
  cases children with
  | nil => simp [itemBody]
  | cons child rest =>
    rw [itemBody, List.flatMap_cons, itemChild, inner_eq]
    split
    · rw [closeItem]
      split <;> split <;> simp [content_inlineItem]
    · simp [content_blockItem]

/-! ## Admonitions -/

theorem afterGaps_eq (indent : Nat) (children : List Node) :
    afterGaps baseUrl indent children
      = (Node.trimLead children).flatMap (node baseUrl indent) := by
  induction children with
  | nil => simp [afterGaps, Node.trimLead]
  | cons child rest ih =>
    rw [afterGaps, Node.trimLead]
    by_cases hgap : isGap child.kind = true
    · rw [if_pos hgap, if_pos hgap]
      exact ih
    · rw [if_neg hgap, if_neg hgap]
      obtain ⟨kind, attributes, inner⟩ := child
      cases kind with
      | text value => simp only [List.flatMap_cons, node, nodes_eq, List.singleton_append]
      | _ => simp only [List.flatMap_cons, nodes_eq]

/-- A paragraph loses its whole content with its label exactly if gaps alone
    follow the label. -/
theorem all_isGap_iff (children : List Node) :
    children.all (isGap ·.kind) = true ↔ Node.trimLead children = [] := by
  induction children with
  | nil => simp [Node.trimLead]
  | cons child rest ih =>
    rw [List.all_cons, Node.trimLead]
    cases hgap : isGap child.kind with
    | true => simpa using ih
    | false =>
      simp only [Bool.false_and, Bool.false_eq_true, if_false, false_iff]
      split <;> simp

/-- The body of an admonition is that of its children without the label. -/
theorem labelled_eq (indent : Nat) {children : List Node} {label : Node}
    (h : admonitionLabel? children = some label) :
    labelled baseUrl indent children
      = (Node.unlabelled children).flatMap (node baseUrl indent) := by
  unfold admonitionLabel? at h
  split at h
  · next attributes first content rest =>
    split at h
    · next hstrong =>
      rw [labelled, labelledParagraph, Node.unlabelled, if_pos hstrong, nodes_eq, List.tail_cons]
      cases htrim : Node.trimLead content with
      | nil => rw [if_pos ((all_isGap_iff content).mpr htrim), List.nil_append]
      | cons kept more =>
        have hkept : ¬content.all (isGap ·.kind) = true := by
          rw [all_isGap_iff, htrim]
          exact List.cons_ne_nil kept more
        rw [if_neg hkept, List.flatMap_cons, node, afterLabel, afterGaps_eq, htrim, nodes_eq]
    · simp at h
  · simp at h

/-- A quote without a label has all of its children. -/
theorem unlabelled_eq_self {children : List Node} (h : admonitionLabel? children = none) :
    Node.unlabelled children = children := by
  unfold Node.unlabelled
  split
  · next attributes label content rest =>
    rw [admonitionLabel?] at h
    split at h
    · simp at h
    · next hstrong => rw [if_neg hstrong]
  · rfl

/-- The attributes of the element of a quote. -/
def quoteAttributes (attributes : Attributes) (children : List Node) : Attributes :=
  match admonitionLabel? children with
  | some label => admonitionAttributes attributes label
  | none => attributes

/-- A quote, with a label or without, is an element around what it shows. -/
theorem node_blockquote (indent : Nat) (attributes : Attributes) (children : List Node) :
    node baseUrl indent ⟨.blockquote, attributes, children⟩
      = Draft.indentedBlock "aside" (quoteAttributes attributes children)
          ((Node.unlabelled children).flatMap (node baseUrl (indent + 2))) indent := by
  rw [node, quoteAttributes]
  cases h : admonitionLabel? children with
  | some label => simp only [labelled_eq baseUrl (indent + 2) h]
  | none => simp only [unlabelled_eq_self h, nodes_eq]

end Layout

end DocSite
