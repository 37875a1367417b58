/-
  DocSite.Proofs.Page.Pieces

  What the nodes of a document bring to its page, apart from markup: texts,
  references, code, headings, images and breaks, in the order in which they are
  printed. Whatever is read off the draft of a document piece by piece, white
  space and elements aside, is read off this list, so no node is left out,
  repeated or moved by the layout of any of the kinds.
-/
import DocSite.Proofs.Page.Layout
import Mathlib.Data.List.Basic

namespace DocSite

open DocSite.Text

/-! ## Reading drafts -/

namespace Draft

variable {α : Type}

mutual

/-- Reads a piece of a draft, and then what is inside it. -/
def collect (f : Draft → List α) : Draft → List α
  | .settled html => f (.settled html)
  | .element tag attributes body => f (.element tag attributes body) ++ collectAll f body
  | .code spot => f (.code spot)
  | .heading spot body => f (.heading spot body) ++ collectAll f body
  | .mailLabel address body => f (.mailLabel address body) ++ collectAll f body

/-- Reads pieces one after the other. -/
def collectAll (f : Draft → List α) : List Draft → List α
  | [] => []
  | piece :: rest => piece.collect f ++ collectAll f rest

end

theorem collectAll_eq (f : Draft → List α) (draft : List Draft) :
    collectAll f draft = draft.flatMap (collect f) := by
  induction draft with
  | nil => simp [collectAll]
  | cons piece rest ih => rw [collectAll, List.flatMap_cons, ih]

@[simp] theorem collectAll_append (f : Draft → List α) (a b : List Draft) :
    collectAll f (a ++ b) = collectAll f a ++ collectAll f b := by
  simp only [collectAll_eq, List.flatMap_append]

/-- A reading that sees nothing in white space, in elements and in the labels of
    mail links, but only in what they hold; of a heading it does not see where
    on its line the heading stands. -/
structure ReadsContent (f : Draft → List α) : Prop where
  space : ∀ piece, piece.isSpace = true → f piece = []
  element : ∀ tag attributes body, f (.element tag attributes body) = []
  mailLabel : ∀ address body, f (.mailLabel address body) = []
  heading : ∀ spot body, f (.heading spot body) = f (.heading { spot with indent := 0 } [])

namespace ReadsContent

variable {f : Draft → List α} (hf : ReadsContent f)

include hf

theorem collect_space {piece : Draft} (h : piece.isSpace = true) : piece.collect f = [] := by
  cases piece with
  | settled html => exact hf.space _ h
  | _ => simp [isSpace] at h

theorem collectAll_content (draft : List Draft) :
    collectAll f (content draft) = collectAll f draft := by
  induction draft with
  | nil => rfl
  | cons piece rest ih =>
    cases hspace : piece.isSpace with
    | true =>
      rw [content, List.filter_cons_of_neg (by simp [hspace]), collectAll,
        hf.collect_space hspace, List.nil_append]
      exact ih
    | false =>
      rw [content, List.filter_cons_of_pos (by simp [hspace]), collectAll, collectAll]
      exact congrArg (piece.collect f ++ ·) ih

theorem collectAll_block (tag : String) (attributes : Attributes) (body : List Draft)
    (indent : Nat) : collectAll f (block tag attributes body indent) = collectAll f body := by
  simp only [block, collectAll, collect, hf.element, hf.collect_space (isSpace_pad indent),
    hf.collect_space isSpace_newline, List.nil_append, List.append_nil]

theorem collectAll_indentedBlock (tag : String) (attributes : Attributes) (body : List Draft)
    (indent : Nat) :
    collectAll f (indentedBlock tag attributes body indent) = collectAll f body := by
  simp only [indentedBlock, hf.collectAll_block, collectAll, collectAll_append,
    hf.collect_space (isSpace_pad indent), hf.collect_space isSpace_newline, List.nil_append,
    List.append_nil]

end ReadsContent

end Draft

/-! ## The pieces of a document -/

namespace Node

open Draft (raw)

/-- The pieces that a node brings itself, before those of its children. -/
def opening (n : Node) : List Draft :=
  match n.kind with
  | .header level rawText => [.heading ⟨level, rawText, n.attributes, n.children, 0⟩ []]
  | .codeBlock code =>
    [.code ⟨code, CodeClass.language (n.attribute? "class"), .block,
      CodeClass.directive? (n.attribute? "class")⟩]
  | .codeSpan code => [.code ⟨code, CodeClass.language (n.attribute? "class"), .span, none⟩]
  | .text value => [.text value]
  | .image => [.settled (.void "img" n.attributes)]
  | .entity name => [.settled (.reference name)]
  | .htmlBlock html => [raw (Layout.closeLine html)]
  | .htmlInline html => [raw html]
  | .lineBreak => [.settled (.void "br" .empty)]
  | .thematicBreak => [.settled (.void "hr" n.attributes)]
  | _ => []

/-- The pieces that a node brings itself, after those of its children: the texts
    of the links back from a footnote. -/
def closing (n : Node) : List Draft :=
  match n.kind with
  | .footnoteDefinition _ references => List.replicate references (.text "↩")
  | _ => []

/-- The pieces of a document, in the order in which they are printed. -/
def pieces (n : Node) : List Draft :=
  n.opening ++ n.shown.attach.flatMap (fun child => child.1.pieces) ++ n.closing
termination_by n.size
decreasing_by exact size_lt_of_mem_shown child.2

theorem pieces_eq (n : Node) : n.pieces = n.opening ++ n.shown.flatMap pieces ++ n.closing := by
  rw [pieces, List.flatMap_subtype (g := pieces) fun _ _ => rfl, List.unattach_attach]

end Node

/-! ## The draft of a document -/

namespace Layout

open Draft (collect collectAll ReadsContent isSpace_newline isSpace_pad collectAll_eq)

variable {α : Type} {f : Draft → List α} (hf : ReadsContent f) (baseUrl : String)

include hf

/-- A link is read as its label. -/
theorem collectAll_link (attributes : Attributes) (label : List Draft) :
    collectAll f [link baseUrl attributes label] = collectAll f label := by
  simp only [link, collectAll, collect, hf.element, List.nil_append, List.append_nil]
  cases (Link.onPage ((attributes.get? "href").getD "") baseUrl).mailAddress with
  | none => rfl
  | some address =>
    simp only [collectAll, collect, hf.mailLabel, List.nil_append, List.append_nil]

/-- Between pieces a reading of the content sees no separators. -/
theorem collectAll_intersperse {separator : Draft} (hspace : separator.isSpace = true)
    (draft : List Draft) : collectAll f (draft.intersperse separator) = collectAll f draft := by
  induction draft with
  | nil => rfl
  | cons piece rest ih =>
    cases rest with
    | nil => rfl
    | cons next rest =>
      rw [List.intersperse_cons_cons, collectAll, collectAll, hf.collect_space hspace, ih,
        List.nil_append]
      rfl

theorem collectAll_backLinks (name : String) (references indent : Nat) :
    collectAll f (backLinks name references indent)
      = (List.replicate references (.text "↩")).flatMap f := by
  unfold backLinks
  split
  · next hzero => simp [hzero, collectAll]
  · have hlink : ∀ n, collect f (backLink name n) = f (.text "↩") := by
      intro n
      simp only [backLink, Draft.text, collect, collectAll, hf.element, List.nil_append,
        List.append_nil]
    have hreplicate : List.replicate references (Draft.text "↩")
        = (List.range' 1 references).map fun _ => .text "↩" := by
      rw [List.map_const', List.length_range']
    rw [List.cons_append, collectAll, hf.collect_space (isSpace_pad indent), List.nil_append,
      Draft.collectAll_append, collectAll_intersperse hf (by decide), collectAll_eq,
      hreplicate, List.flatMap_map, List.flatMap_map]
    simp only [hlink, collectAll, hf.collect_space isSpace_newline, List.append_nil]

omit hf in
theorem collectAll_flatMap_node {children : List Node}
    (h : ∀ child ∈ children, ∀ i, collectAll f (node baseUrl i child) = child.pieces.flatMap f)
    (indent : Nat) :
    collectAll f (children.flatMap (node baseUrl indent))
      = (children.flatMap Node.pieces).flatMap f := by
  rw [collectAll_eq, List.flatMap_assoc, List.flatMap_assoc]
  refine List.flatMap_congr fun child hchild => ?_
  rw [← collectAll_eq, h child hchild indent]

/-- Whether a paragraph of an item is laid out with its element or without it
    makes no difference. -/
theorem collectAll_itemBody {children : List Node}
    (h : ∀ child ∈ children, ∀ i, collectAll f (node baseUrl i child) = child.pieces.flatMap f)
    (hinner : ∀ child ∈ children, ∀ grandchild ∈ child.children, ∀ i,
      collectAll f (node baseUrl i grandchild) = grandchild.pieces.flatMap f)
    (tight : Bool) (indent : Nat) :
    collectAll f (itemBody baseUrl tight indent children)
      = (children.flatMap Node.pieces).flatMap f := by
  rw [← hf.collectAll_content, content_itemBody, hf.collectAll_content, collectAll_eq,
    List.flatMap_assoc, List.flatMap_assoc]
  refine List.flatMap_congr fun child hchild => ?_
  rw [← collectAll_eq, itemChild]
  split
  · next hparagraph =>
    have hkind : child.kind = .paragraph := by simpa using (Bool.and_eq_true_iff.mp hparagraph).2
    rw [collectAll_flatMap_node baseUrl (hinner child hchild), Node.pieces_eq child]
    simp [Node.opening, Node.shown, Node.closing, hkind]
  · exact h child hchild _

/-- The pieces of an item are those of its children. -/
theorem collectAll_entry {n : Node}
    (h : ∀ m : Node, m.size ≤ n.size →
      ∀ i, collectAll f (node baseUrl i m) = m.pieces.flatMap f)
    (tight : Bool) (indent : Nat) :
    collectAll f (entry baseUrl tight indent n) = n.pieces.flatMap f := by
  rw [entry]
  split
  · next hitem =>
    rw [item, hf.collectAll_block, collectAll_itemBody hf baseUrl, Node.pieces_eq n]
    · simp [Node.opening, Node.shown, Node.closing, hitem]
    · exact fun c hc => h c (Nat.le_of_lt (Node.size_lt_of_mem hc))
    · intro c hc g hg
      exact h g (Nat.le_of_lt (Nat.lt_trans (Node.size_lt_of_mem hg) (Node.size_lt_of_mem hc)))
  · exact h n (Nat.le_refl _) indent

/-- A document prints its footnotes after everything else. -/
theorem collectAll_document {children : List Node}
    (h : ∀ child ∈ children, ∀ i, collectAll f (node baseUrl i child) = child.pieces.flatMap f)
    (attributes : Attributes) (indent : Nat) :
    collectAll f (node baseUrl indent ⟨.document, attributes, children⟩)
      = ((children.filter (!·.isFootnote) ++ children.filter (·.isFootnote)).flatMap
          Node.pieces).flatMap f := by
  have hnotes : collectAll f
      (if children.any Node.isFootnote then
        footnoteSection (notes baseUrl (indent + 4) children) indent else [])
      = collectAll f (notes baseUrl (indent + 4) children) := by
    split
    · rw [footnoteSection, hf.collectAll_indentedBlock, hf.collectAll_indentedBlock]
    · next hnone =>
      rw [notes_eq, List.filter_eq_nil_iff.mpr]
      · rfl
      · exact fun c hc hfoot => hnone (List.any_eq_true.mpr ⟨c, hc, hfoot⟩)
  rw [node, Draft.collectAll_append, hnotes, blocks_eq, notes_eq, List.flatMap_append,
    List.flatMap_append, collectAll_flatMap_node baseUrl, collectAll_flatMap_node baseUrl]
  · exact fun c hc => h c (List.mem_filter.mp hc).1
  · exact fun c hc => h c (List.mem_filter.mp hc).1

/-- **The draft of a document holds the document's pieces.** A reading of the
    content of drafts reads the same off the draft of a document and off the
    pieces of the document. -/
theorem collectAll_node (n : Node) (indent : Nat) :
    collectAll f (node baseUrl indent n) = n.pieces.flatMap f := by
  induction hsize : n.size using Nat.strongRecOn generalizing n indent with
  | _ size ih =>
    subst hsize
    have hsmaller : ∀ m, m.size < n.size → ∀ i,
        collectAll f (node baseUrl i m) = m.pieces.flatMap f := fun m hm i => ih m.size hm m i rfl
    have hchild : ∀ c ∈ n.children, ∀ i,
        collectAll f (node baseUrl i c) = c.pieces.flatMap f := fun c hc =>
      hsmaller c (Node.size_lt_of_mem hc)
    have hshown : collectAll f (n.shown.flatMap (node baseUrl (indent + 2)))
        = (n.shown.flatMap Node.pieces).flatMap f :=
      collectAll_flatMap_node baseUrl (fun c hc => hsmaller c (Node.size_lt_of_mem_shown hc)) _
    rw [Node.pieces_eq, List.flatMap_append, List.flatMap_append]
    obtain ⟨kind, attributes, children⟩ := n
    -- Most kinds are an element around what they show. Lists and items look further:
    -- they lay out the content of their paragraphs in the place of these.
    cases kind with
    | document =>
      rw [collectAll_document hf baseUrl hchild]
      simp [Node.opening, Node.shown, Node.closing]
    | list ordered start tight =>
      rw [node, hf.collectAll_indentedBlock, items_eq, collectAll_eq, List.flatMap_assoc]
      simp only [Node.opening, Node.shown, Node.closing, List.flatMap_nil, List.nil_append,
        List.append_nil]
      rw [List.flatMap_assoc]
      refine List.flatMap_congr fun c hc => ?_
      have hlt := Node.size_lt_of_mem (n := ⟨.list ordered start tight, attributes, children⟩) hc
      rw [← collectAll_eq]
      exact collectAll_entry hf baseUrl (fun m hm => hsmaller m (Nat.lt_of_le_of_lt hm hlt))
        tight (indent + 2)
    | listItem =>
      rw [node, item, hf.collectAll_block, collectAll_itemBody hf baseUrl hchild]
      · simp [Node.opening, Node.shown, Node.closing]
      · intro c hc g hg
        exact hsmaller g (Nat.lt_trans (Node.size_lt_of_mem hg) (Node.size_lt_of_mem hc))
    | blockquote =>
      rw [node_blockquote, hf.collectAll_indentedBlock]
      simpa [Node.opening, Node.shown, Node.closing] using hshown
    | footnoteDefinition name references =>
      rw [node, hf.collectAll_indentedBlock, Draft.collectAll_append, nodes_eq,
        collectAll_backLinks hf]
      simpa [Node.opening, Node.shown, Node.closing] using hshown
    | link =>
      rw [node, collectAll_link hf, nodes_eq]
      simpa [Node.opening, Node.shown, Node.closing] using hshown
    | header level rawText =>
      rw [node, nodes_eq, collectAll, collect, hf.heading]
      simpa [Node.opening, Node.shown, Node.closing, collectAll] using hshown
    | codeBlock code =>
      rw [node, codeBlock, hf.collectAll_block]
      simp [collectAll, collect, hf.element, Node.opening, Node.shown, Node.closing,
        Node.attribute?]
    | codeSpan code =>
      rw [node, codeSpan]
      simp [collectAll, collect, hf.element, Node.opening, Node.shown, Node.closing,
        Node.attribute?]
    | softBreak | lineBreak | thematicBreak =>
      simp [node, collectAll, hf.collect_space (isSpace_pad _), hf.collect_space isSpace_newline,
        collect, Node.opening, Node.shown, Node.closing]
    | strong | emphasis | strikethrough | anchor =>
      rw [node, nodes_eq, collectAll, collect, hf.element]
      simpa [Node.opening, Node.shown, Node.closing, collectAll] using hshown
    | paragraph | tableCell header =>
      rw [node, nodes_eq, hf.collectAll_block]
      simpa [Node.opening, Node.shown, Node.closing] using hshown
    | table | tableHead | tableBody | tableRow =>
      rw [node, nodes_eq, hf.collectAll_indentedBlock]
      simpa [Node.opening, Node.shown, Node.closing] using hshown
    | image | text value | entity name | htmlBlock html | htmlInline html =>
      simp [node, collectAll, collect, Draft.text, Draft.raw, Node.opening, Node.shown,
        Node.closing]

end Layout

end DocSite
