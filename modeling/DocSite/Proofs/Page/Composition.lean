/-
  DocSite.Proofs.Page.Composition

  How the draft of a document is composed of what its nodes bring, as a relation
  between drafts and the nodes that are visited for them. White space may stand
  anywhere, and a node brings its own element, or none, around what it shows. That
  the layout of every kind of node is such a composition is shown here once, so that
  statements about drafts are proved by induction on compositions, with one case for
  each way in which a page is put together, and not for each kind of node.
-/
import DocSite.Proofs.Document.Visited
import DocSite.Proofs.Page.Admission
import DocSite.Proofs.Page.Pieces

namespace DocSite

/-- Whether a node brings nothing of its own to a page but white space and an element
    around what it shows. -/
def Node.isFrame (n : Node) : Bool :=
  match n.kind with
  | .document | .paragraph | .list .. | .listItem | .table | .tableHead | .tableBody | .tableRow
  | .tableCell _ | .footnoteDefinition .. | .strong | .emphasis | .strikethrough | .blockquote
  | .softBreak => true
  | _ => false

namespace Node

variable {n : Node}

theorem ne_link_of_isFrame (h : n.isFrame = true) : n.kind ≠ .link := by
  intro hkind
  rw [isFrame, hkind] at h
  cases h

theorem ne_link_of_opening {html : Html} (h : n.opening = [.settled html]) : n.kind ≠ .link := by
  intro hkind
  rw [opening, hkind] at h
  cases h

theorem ne_link_of_codeSpot? {spot : CodeSpot} (h : n.codeSpot? = some spot) :
    n.kind ≠ .link := by
  intro hkind
  rw [codeSpot?, hkind] at h
  cases h

theorem codeSpot?_of_isFrame (h : n.isFrame = true) : n.codeSpot? = none := by
  unfold isFrame at h
  unfold codeSpot?
  split
  · next hkind =>
    rw [hkind] at h
    cases h
  · next hkind =>
    rw [hkind] at h
    cases h
  · rfl

theorem codeSpot?_of_opening {html : Html} (h : n.opening = [.settled html]) :
    n.codeSpot? = none := by
  unfold opening at h
  unfold codeSpot?
  split
  · next hkind =>
    rw [hkind] at h
    cases h
  · next hkind =>
    rw [hkind] at h
    cases h
  · rfl

end Node

namespace Layout

open Draft (block indentedBlock pad newline)

/-- Attributes whose keys are admitted if those of an author are. -/
def KeysFrom (own attributes : Attributes) : Prop :=
  ∀ a : Admission, a.Keys own → a.Keys attributes

/-- A draft is composed of what the nodes of a list bring, one after the other and each
    before what it shows. -/
inductive Composed (baseUrl : String) : List Draft → List Node → Prop
  | nil : Composed baseUrl [] []
  | append {b c : List Draft} {v w : List Node} :
      Composed baseUrl b v → Composed baseUrl c w → Composed baseUrl (b ++ c) (v ++ w)
  | space {piece : Draft} : piece.isSpace = true → Composed baseUrl [piece] []
  /-- An element of the layout's own. -/
  | frame {tag : String} {attributes : Attributes} {body : List Draft} {v : List Node} :
      tag ∈ layoutTags → tag ≠ "a" → KeysFrom .empty attributes → Composed baseUrl body v →
      Composed baseUrl [.element tag attributes body] v
  /-- A link back from a footnote. -/
  | backLink (name : String) (reference : Nat) : Composed baseUrl [backLink name reference] []
  /-- A node without an element, such as a paragraph of a tight item. -/
  | bare {n : Node} {body : List Draft} {v : List Node} :
      n.isFrame = true → Composed baseUrl body v → Composed baseUrl body (n :: v)
  | element {n : Node} {tag : String} {attributes : Attributes} {body : List Draft}
      {v : List Node} :
      n.isFrame = true → tag ∈ layoutTags → tag ≠ "a" → KeysFrom n.attributes attributes →
      Composed baseUrl body v → Composed baseUrl [.element tag attributes body] (n :: v)
  | leaf {n : Node} {html : Html} :
      n.opening = [.settled html] → Composed baseUrl [.settled html] [n]
  | code {n : Node} {attributes : Attributes} {spot : CodeSpot} :
      n.codeSpot? = some spot → KeysFrom n.attributes attributes →
      Composed baseUrl [.element "code" attributes [.code spot]] [n]
  | heading {n : Node} {level indent : Nat} {rawText : String} {body : List Draft}
      {v : List Node} :
      n.kind = .header level rawText → Composed baseUrl body v →
      Composed baseUrl [.heading ⟨level, rawText, n.attributes, n.children, indent⟩ body] (n :: v)
  | anchor {n : Node} {body : List Draft} {v : List Node} :
      n.kind = .anchor → Composed baseUrl body v →
      Composed baseUrl [.element "a" n.attributes body] (n :: v)
  | link {n : Node} {indent : Nat} :
      n.kind = .link →
      Composed baseUrl (n.children.flatMap (node baseUrl indent))
        (n.children.flatMap Node.visited) →
      Composed baseUrl [link baseUrl n.attributes (n.children.flatMap (node baseUrl indent))]
        (n :: n.children.flatMap Node.visited)

namespace Composed

variable {baseUrl : String}

/-! ## White space -/

/-- White space may stand in front. -/
theorem cons_space {piece : Draft} {body : List Draft} {v : List Node}
    (hspace : piece.isSpace = true) (h : Composed baseUrl body v) :
    Composed baseUrl (piece :: body) v :=
  (Composed.space hspace).append h

/-- White space may stand behind. -/
theorem concat_space {piece : Draft} {body : List Draft} {v : List Node}
    (h : Composed baseUrl body v) (hspace : piece.isSpace = true) :
    Composed baseUrl (body ++ [piece]) v := by
  have happend := h.append (.space hspace)
  rwa [List.append_nil] at happend

theorem cons_newline {body : List Draft} {v : List Node} (h : Composed baseUrl body v) :
    Composed baseUrl (newline :: body) v :=
  h.cons_space Draft.isSpace_newline

theorem cons_pad {body : List Draft} {v : List Node} (indent : Nat)
    (h : Composed baseUrl body v) : Composed baseUrl (pad indent :: body) v :=
  h.cons_space (Draft.isSpace_pad indent)

theorem concat_newline {body : List Draft} {v : List Node} (h : Composed baseUrl body v) :
    Composed baseUrl (body ++ [newline]) v :=
  h.concat_space Draft.isSpace_newline

theorem concat_pad {body : List Draft} {v : List Node} (indent : Nat)
    (h : Composed baseUrl body v) : Composed baseUrl (body ++ [pad indent]) v :=
  h.concat_space (Draft.isSpace_pad indent)

/-- An element may stand on a line of its own. -/
theorem block {tag : String} {attributes : Attributes} {body : List Draft} {v : List Node}
    (h : Composed baseUrl [.element tag attributes body] v) (indent : Nat) :
    Composed baseUrl (Draft.block tag attributes body indent) v :=
  h.concat_newline.cons_pad indent

/-- What is in an element may stand on lines of its own. -/
theorem lines {body : List Draft} {v : List Node} (h : Composed baseUrl body v) (indent : Nat) :
    Composed baseUrl (newline :: (body ++ [pad indent])) v :=
  (h.concat_pad indent).cons_newline

/-! ## Several nodes -/

theorem flatMap {children : List Node} {f : Node → List Draft}
    (h : ∀ child ∈ children, Composed baseUrl (f child) child.visited) :
    Composed baseUrl (children.flatMap f) (children.flatMap Node.visited) := by
  induction children with
  | nil => exact .nil
  | cons child rest ih =>
    obtain ⟨hchild, hrest⟩ := List.forall_mem_cons.mp h
    rw [List.flatMap_cons, List.flatMap_cons]
    exact hchild.append (ih hrest)

/-! ## Items -/

/-- White space before the closing tag of an item makes no difference. -/
theorem closeItem {body : List Draft} {v : List Node} (h : Composed baseUrl body v)
    (indent : Nat) : Composed baseUrl (closeItem indent body) v := by
  unfold Layout.closeItem
  split
  · exact h.concat_pad indent
  · exact h

section Items

variable {tight : Bool} {indent : Nat} {children : List Node}
  (h : ∀ child ∈ children,
    Composed baseUrl (itemChild baseUrl tight indent child) child.visited)

include h

theorem inlineItem :
    Composed baseUrl (inlineItem baseUrl tight indent children)
      (children.flatMap Node.visited) := by
  induction children with
  | nil =>
    rw [Layout.inlineItem]
    exact .nil
  | cons child rest ih =>
    obtain ⟨hchild, hrest⟩ := List.forall_mem_cons.mp h
    rw [itemChild, ← inner_eq] at hchild
    rw [Layout.inlineItem, List.flatMap_cons]
    refine .append ?_ (ih hrest)
    split
    · next hparagraph =>
      rw [if_pos hparagraph] at hchild
      split
      · rwa [List.append_nil]
      · exact hchild.concat_newline
    · next hother =>
      rwa [if_neg hother] at hchild

theorem blockItem :
    Composed baseUrl (blockItem baseUrl tight indent children)
      (children.flatMap Node.visited) := by
  induction children with
  | nil =>
    rw [Layout.blockItem]
    exact .nil
  | cons child rest ih =>
    obtain ⟨hchild, hrest⟩ := List.forall_mem_cons.mp h
    rw [itemChild, ← inner_eq] at hchild
    rw [Layout.blockItem, List.flatMap_cons]
    refine .append ?_ (ih hrest)
    split
    · next hparagraph =>
      rw [if_pos hparagraph] at hchild
      exact hchild.concat_newline.cons_pad _
    · next hother =>
      rwa [if_neg hother] at hchild

/-- An item is composed of what its children bring, whichever way it is laid out. -/
theorem itemBody :
    Composed baseUrl (itemBody baseUrl tight indent children)
      (children.flatMap Node.visited) := by
  cases children with
  | nil =>
    rw [Layout.itemBody]
    exact .nil
  | cons child rest =>
    obtain ⟨hchild, hrest⟩ := List.forall_mem_cons.mp h
    rw [itemChild, ← inner_eq] at hchild
    rw [Layout.itemBody, List.flatMap_cons]
    -- The item starts on its own line with a paragraph, and on the next with anything else.
    split
    · next hparagraph =>
      rw [if_pos hparagraph] at hchild
      have hfirst : Composed baseUrl
          (inner baseUrl indent child ++ (if rest.isEmpty then [] else [newline]))
          child.visited := by
        split
        · rwa [List.append_nil]
        · exact hchild.concat_newline
      exact (hfirst.append (inlineItem hrest)).closeItem indent
    · next hother =>
      rw [if_neg hother] at hchild
      exact ((hchild.append (blockItem hrest)).concat_pad indent).cons_newline

end Items

/-! ## Footnotes -/

theorem backLinks (name : String) (references indent : Nat) :
    Composed baseUrl (backLinks name references indent) [] := by
  have hspaced : ∀ links : List Nat, Composed baseUrl
      ((links.map (Layout.backLink name)).intersperse (.text " ")) [] := by
    intro links
    induction links with
    | nil => exact .nil
    | cons n rest ih =>
      -- A blank sets a link off from the next one, which there need not be.
      cases rest with
      | nil => exact .backLink name n
      | cons m more =>
        rw [List.map_cons, List.map_cons, List.intersperse_cons_cons]
        exact (Composed.backLink name n).append (ih.cons_space (by decide))
  unfold Layout.backLinks
  split
  · exact .nil
  · rw [List.cons_append]
    exact (hspaced _).concat_newline.cons_pad indent

/-- The section of footnotes is there exactly if there are footnotes. -/
theorem footnotes {children : List Node} (indent : Nat)
    (h : ∀ child ∈ children, ∀ i, Composed baseUrl (node baseUrl i child) child.visited) :
    Composed baseUrl
      (if children.any Node.isFootnote then
        footnoteSection (notes baseUrl (indent + 4) children) indent else [])
      ((children.filter (·.isFootnote)).flatMap Node.visited) := by
  split
  · have hnotes : Composed baseUrl (notes baseUrl (indent + 4) children)
        ((children.filter (·.isFootnote)).flatMap Node.visited) := by
      rw [notes_eq]
      exact flatMap fun child hchild => h child (List.mem_filter.mp hchild).1 _
    have hkeys : KeysFrom .empty (.ofList [("class", "footnotes")]) := fun a _ =>
      Admission.keys_ofList (by decide)
    have hlist : Composed baseUrl
        [.element "ol" .empty (newline :: (notes baseUrl (indent + 4) children
          ++ [pad (indent + 2)]))]
        ((children.filter (·.isFootnote)).flatMap Node.visited) :=
      .frame (by decide) (by decide) (fun _ hown => hown) (hnotes.lines (indent + 2))
    exact ((Composed.frame (by decide) (by decide) hkeys
      ((hlist.block (indent + 2)).lines indent))).block indent
  · next hnone =>
    have hnil : children.filter (·.isFootnote) = [] := by
      rw [List.filter_eq_nil_iff]
      exact fun child hchild hfoot => hnone (List.any_eq_true.mpr ⟨child, hchild, hfoot⟩)
    rw [hnil]
    exact .nil

/-! ## Nodes -/

/-- An element of a node on a line of its own. -/
theorem elementBlock {n : Node} {tag : String} {attributes : Attributes} {body : List Draft}
    {v : List Node} (hframe : n.isFrame = true) (htag : tag ∈ layoutTags) (hne : tag ≠ "a")
    (hkeys : KeysFrom n.attributes attributes) (h : Composed baseUrl body v) (indent : Nat) :
    Composed baseUrl (Draft.block tag attributes body indent) (n :: v) :=
  (Composed.element hframe htag hne hkeys h).block indent

/-- An element of a node around lines of its own. -/
theorem indentedBlock {n : Node} {tag : String} {attributes : Attributes} {body : List Draft}
    {v : List Node} (hframe : n.isFrame = true) (htag : tag ∈ layoutTags) (hne : tag ≠ "a")
    (hkeys : KeysFrom n.attributes attributes) (h : Composed baseUrl body v) (indent : Nat) :
    Composed baseUrl (Draft.indentedBlock tag attributes body indent) (n :: v) :=
  elementBlock hframe htag hne hkeys (h.lines indent) indent

/-- The keys that the layout sets are admitted. -/
theorem keysFrom_insert {key : String} (hkey : key ∈ layoutKeys) (own : Attributes)
    (value : String) : KeysFrom own (own.insert key value) :=
  fun a hown => hown.insert (a.key_of_mem key hkey) value

theorem keysFrom_self (own : Attributes) : KeysFrom own own := fun _ hown => hown

/-- The children of an item are composed, those of its paragraphs as well as the
    paragraphs with their elements. -/
theorem itemChild {c : Node} {tight : Bool} {indent : Nat}
    (h : ∀ i, Composed baseUrl (node baseUrl i c) c.visited)
    (hinner : ∀ g ∈ c.children, ∀ i, Composed baseUrl (node baseUrl i g) g.visited) :
    Composed baseUrl (itemChild baseUrl tight indent c) c.visited := by
  rw [Layout.itemChild]
  split
  · next hparagraph =>
    have hkind : c.kind = .paragraph := by simpa using (Bool.and_eq_true_iff.mp hparagraph).2
    have hshown : c.shown = c.children := by rw [Node.shown, hkind]
    rw [Node.visited_eq, hshown]
    refine .bare (by rw [Node.isFrame, hkind]) (flatMap fun g hg => hinner g hg _)
  · exact h _

/-- **The layout composes.** The draft of a document is composed of what the visited
    nodes of the document bring, in the order in which they are visited. -/
theorem node (baseUrl : String) (n : Node) (indent : Nat) :
    Composed baseUrl (node baseUrl indent n) n.visited := by
  induction hsize : n.size using Nat.strongRecOn generalizing n indent with
  | _ size ih =>
    subst hsize
    have hsmaller : ∀ m : Node, m.size < n.size → ∀ i,
        Composed baseUrl (Layout.node baseUrl i m) m.visited := fun m hm i => ih m.size hm m i rfl
    have hchild : ∀ c ∈ n.children, ∀ i,
        Composed baseUrl (Layout.node baseUrl i c) c.visited := fun c hc =>
      hsmaller c (Node.size_lt_of_mem hc)
    have hshown : ∀ i, Composed baseUrl (n.shown.flatMap (Layout.node baseUrl i))
        (n.shown.flatMap Node.visited) := fun i =>
      flatMap fun c hc => hsmaller c (Node.size_lt_of_mem_shown hc) i
    -- An item looks two levels down, so that a size is bounded and not a child named.
    have hitem : ∀ c : Node, c.size ≤ n.size → ∀ tight i, ∀ d ∈ c.children,
        Composed baseUrl (Layout.itemChild baseUrl tight i d) d.visited := by
      intro c hc tight i d hd
      have hlt := Nat.lt_of_lt_of_le (Node.size_lt_of_mem hd) hc
      refine itemChild (hsmaller d hlt) fun g hg => ?_
      exact hsmaller g (Nat.lt_trans (Node.size_lt_of_mem hg) hlt)
    rw [Node.visited_eq]
    obtain ⟨kind, attributes, children⟩ := n
    cases kind with
    | document =>
      rw [Layout.node, blocks_eq]
      have hblocks : Composed baseUrl
          ((children.filter (!·.isFootnote)).flatMap (Layout.node baseUrl indent))
          ((children.filter (!·.isFootnote)).flatMap Node.visited) :=
        flatMap fun c hc => hchild c (List.mem_filter.mp hc).1 indent
      have hbody := hblocks.append (footnotes indent hchild)
      rw [← List.flatMap_append] at hbody
      exact .bare rfl hbody
    | list ordered start tight =>
      rw [Layout.node, items_eq]
      have hkeys : KeysFrom attributes (listAttributes attributes ordered start) := fun a hown =>
        keys_listAttributes hown ordered start
      refine indentedBlock rfl (by cases ordered <;> decide) (by cases ordered <;> decide) hkeys
        (flatMap fun c hc => ?_) indent
      rw [entry]
      split
      · next hkind =>
        have hshownItem : c.shown = c.children := by rw [Node.shown, hkind]
        have hlt := Node.size_lt_of_mem (n := ⟨.list ordered start tight, attributes, children⟩) hc
        rw [Node.visited_eq, hshownItem]
        exact elementBlock (by rw [Node.isFrame, hkind]) (by decide) (by decide)
          (keysFrom_self c.attributes) (itemBody (hitem c (Nat.le_of_lt hlt) tight (indent + 2))) _
      · exact hchild c hc _
    | listItem =>
      rw [Layout.node, item]
      exact elementBlock (by rfl) (by decide) (by decide) (keysFrom_self attributes)
        (itemBody (hitem _ (Nat.le_refl _) false indent)) indent
    | blockquote =>
      have hkeys : KeysFrom attributes (quoteAttributes attributes children) := fun a hown =>
        keys_quoteAttributes hown children
      rw [node_blockquote]
      exact indentedBlock (by rfl) (by decide) (by decide) hkeys (hshown (indent + 2)) indent
    | footnoteDefinition name references =>
      rw [Layout.node, nodes_eq]
      have hbody := (hshown (indent + 2)).append (backLinks name references (indent + 2))
      rw [List.append_nil] at hbody
      exact indentedBlock (by rfl) (by decide) (by decide)
        (keysFrom_insert (by decide) attributes _) hbody indent
    | link =>
      rw [Layout.node, nodes_eq]
      exact .link (n := ⟨.link, attributes, children⟩) rfl (hshown (indent + 2))
    | header level rawText =>
      rw [Layout.node, nodes_eq]
      exact .heading (n := ⟨.header level rawText, attributes, children⟩) rfl (hshown (indent + 2))
    | anchor =>
      rw [Layout.node, nodes_eq]
      exact .anchor (n := ⟨.anchor, attributes, children⟩) rfl (hshown (indent + 2))
    | codeBlock code =>
      have hkeys : KeysFrom attributes
          (.ofList [("class", "code-block__wrapper code-block _highlighted lang_"
            ++ CodeClass.language (attributes.get? "class"))]) := fun a _ =>
        Admission.keys_ofList (by simp [layoutKeys])
      have hcode : Composed baseUrl _ [⟨.codeBlock code, attributes, children⟩] :=
        .code rfl hkeys
      exact (Composed.frame (by decide) (by decide) (fun _ hown => hown) hcode).block 0
    | codeSpan code =>
      exact .code (n := ⟨.codeSpan code, attributes, children⟩) rfl
        (keysFrom_insert (by decide) attributes _)
    | paragraph =>
      rw [Layout.node, nodes_eq]
      exact elementBlock (by rfl) (by decide) (by decide) (keysFrom_self attributes)
        (hshown (indent + 2)) indent
    | tableCell header =>
      rw [Layout.node, nodes_eq]
      exact elementBlock (by rfl) (by cases header <;> decide) (by cases header <;> decide)
        (keysFrom_self attributes) (hshown (indent + 2)) indent
    | table | tableHead | tableBody | tableRow =>
      rw [Layout.node, nodes_eq]
      exact indentedBlock (by rfl) (by decide) (by decide) (keysFrom_self attributes)
        (hshown (indent + 2)) indent
    | strong | emphasis | strikethrough =>
      rw [Layout.node, nodes_eq]
      exact .element rfl (by decide) (by decide) (keysFrom_self attributes) (hshown (indent + 2))
    | thematicBreak =>
      exact (Composed.leaf rfl).concat_newline.cons_pad indent
    | lineBreak => exact (Composed.leaf rfl).concat_newline
    | softBreak => exact .bare rfl (.space Draft.isSpace_newline)
    | text value | entity name | htmlBlock html | htmlInline html | image => exact .leaf rfl

end Composed

end Layout

end DocSite
