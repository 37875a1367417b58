/-
  DocSite.Proofs.Document.Shown

  The children of a node that reach the page, in the order in which they are
  printed. Leaves and images print no children, a document prints its footnotes
  last, and a quote that begins with a bold label prints its first paragraph
  without the label.

  Whatever is shown is smaller than the node that shows it, so that statements
  about pages go by induction on the size of a tree. The first paragraph of an
  admonition is the reason for the size: it is no child of the quote, and an
  induction on the children would not reach it.
-/
import DocSite.Page.Layout

namespace DocSite.Node

open DocSite.Text

/-! ## Size -/

mutual

/-- The number of nodes of a tree. -/
def size : Node → Nat
  | ⟨_, _, children⟩ => sizeAll children + 1

/-- The number of nodes of trees. -/
def sizeAll : List Node → Nat
  | [] => 0
  | node :: rest => node.size + sizeAll rest

end

theorem size_eq (n : Node) : n.size = sizeAll n.children + 1 := by
  cases n
  rfl

theorem size_le_sizeAll {c : Node} {children : List Node} (h : c ∈ children) :
    c.size ≤ sizeAll children := by
  induction children with
  | nil => simp at h
  | cons first rest ih =>
    rw [sizeAll]
    rcases List.mem_cons.mp h with rfl | hrest
    · omega
    · have := ih hrest
      omega

theorem size_lt_of_mem {c n : Node} (h : c ∈ n.children) : c.size < n.size := by
  have := size_le_sizeAll h
  rw [size_eq n]
  omega

/-! ## Subtrees -/

mutual

/-- The nodes of a tree, each before its children. -/
def subtree : Node → List Node
  | ⟨kind, attributes, children⟩ => ⟨kind, attributes, children⟩ :: subtreeAll children

/-- The nodes of trees. -/
def subtreeAll : List Node → List Node
  | [] => []
  | node :: rest => node.subtree ++ subtreeAll rest

end

theorem subtree_eq (n : Node) : n.subtree = n :: n.children.flatMap subtree := by
  have hall : ∀ children, subtreeAll children = children.flatMap subtree := by
    intro children
    induction children with
    | nil => rfl
    | cons first rest ih => rw [subtreeAll, List.flatMap_cons, ih]
  cases n
  rw [subtree, hall]

/-- What holds of the kind and the attributes of every node of a tree. -/
def Throughout (P : NodeKind → Attributes → Prop) (n : Node) : Prop :=
  ∀ m ∈ n.subtree, P m.kind m.attributes

theorem throughout_iff {P : NodeKind → Attributes → Prop} {n : Node} :
    n.Throughout P ↔ P n.kind n.attributes ∧ ∀ c ∈ n.children, c.Throughout P := by
  rw [Throughout, subtree_eq, List.forall_mem_cons]
  refine and_congr_right fun _ => ?_
  constructor
  · intro h c hc m hm
    exact h m (List.mem_flatMap.mpr ⟨c, hc, hm⟩)
  · intro h m hm
    obtain ⟨c, hc, hmc⟩ := List.mem_flatMap.mp hm
    exact h c hc m hmc

/-! ## Labels -/

/-- What follows a label, without the breaks and the white space after it. -/
def trimLead : List Node → List Node
  | [] => []
  | first :: rest =>
    if Layout.isGap first.kind then trimLead rest
    else
      match first.kind with
      | .text value =>
        ⟨.text (String.ofList (trimStart value.toList)), first.attributes, first.children⟩ :: rest
      | _ => first :: rest

theorem sizeAll_trimLead_le (content : List Node) :
    sizeAll (trimLead content) ≤ sizeAll content := by
  induction content with
  | nil => exact Nat.le_refl _
  | cons first rest ih =>
    unfold trimLead
    split
    · rw [sizeAll]
      omega
    · split
      · refine Nat.le_of_eq ?_
        rw [sizeAll, sizeAll, size_eq, size_eq first]
      · exact Nat.le_refl _

/-- The children of a quote without the bold label that they begin with. A
    paragraph of which nothing is left is left out. -/
def unlabelled : List Node → List Node
  | ⟨.paragraph, attributes, label :: content⟩ :: rest =>
    if label.kind = .strong then
      match trimLead content with
      | [] => rest
      | first :: more => ⟨.paragraph, attributes, first :: more⟩ :: rest
    else ⟨.paragraph, attributes, label :: content⟩ :: rest
  | children => children

theorem sizeAll_unlabelled_le (children : List Node) :
    sizeAll (unlabelled children) ≤ sizeAll children := by
  unfold unlabelled
  split
  · next attributes label content rest =>
    have htrim := sizeAll_trimLead_le content
    split
    · split
      · simp only [sizeAll]
        omega
      · next heq =>
        -- The label alone is at least one node, whatever follows it.
        rw [heq] at htrim
        simp only [sizeAll, size] at htrim ⊢
        omega
    · exact Nat.le_refl _
  · exact Nat.le_refl _

/-! ## Shown children -/

/-- The children of a node that are printed, in the order in which they are. -/
def shown (n : Node) : List Node :=
  match n.kind with
  | .document => n.children.filter (!·.isFootnote) ++ n.children.filter (·.isFootnote)
  | .blockquote => unlabelled n.children
  | .image | .text _ | .codeBlock _ | .codeSpan _ | .entity _ | .htmlBlock _ | .htmlInline _
  | .softBreak | .lineBreak | .thematicBreak => []
  | _ => n.children

/-- What a node shows is smaller than the node. -/
theorem size_lt_of_mem_shown {c n : Node} (h : c ∈ n.shown) : c.size < n.size := by
  unfold shown at h
  split at h
  · rcases List.mem_append.mp h with h | h
    · exact size_lt_of_mem (List.mem_filter.mp h).1
    · exact size_lt_of_mem (List.mem_filter.mp h).1
  · have hle := sizeAll_unlabelled_le n.children
    have := size_le_sizeAll h
    rw [size_eq n]
    omega
  all_goals first
    | exact absurd h List.not_mem_nil
    | exact size_lt_of_mem h

/-! ## What holds throughout -/

section Throughout

variable {P : NodeKind → Attributes → Prop}
  (htext : ∀ value other attributes, P (.text value) attributes → P (.text other) attributes)

include htext

theorem throughout_trimLead {content : List Node} (h : ∀ c ∈ content, c.Throughout P) :
    ∀ c ∈ trimLead content, c.Throughout P := by
  induction content with
  | nil => exact h
  | cons first rest ih =>
    obtain ⟨hfirst, hrest⟩ := List.forall_mem_cons.mp h
    unfold trimLead
    split
    · exact ih hrest
    · split
      · next value hkind =>
        -- A text has lost the white space before it: it is another node than before.
        obtain ⟨hown, hchildren⟩ := throughout_iff.mp hfirst
        rw [hkind] at hown
        exact List.forall_mem_cons.mpr
          ⟨throughout_iff.mpr ⟨htext _ _ _ hown, hchildren⟩, hrest⟩
      · exact h

theorem throughout_unlabelled {children : List Node} (h : ∀ c ∈ children, c.Throughout P) :
    ∀ c ∈ unlabelled children, c.Throughout P := by
  unfold unlabelled
  split
  · next attributes label content rest =>
    obtain ⟨hparagraph, hrest⟩ := List.forall_mem_cons.mp h
    obtain ⟨hown, hcontent⟩ := throughout_iff.mp hparagraph
    split
    · have htrim := throughout_trimLead htext (List.forall_mem_cons.mp hcontent).2
      split
      · exact hrest
      · next heq =>
        rw [heq] at htrim
        exact List.forall_mem_cons.mpr ⟨throughout_iff.mpr ⟨hown, htrim⟩, hrest⟩
    · exact h
  · exact h

/-- What holds throughout a tree holds throughout what is shown of it, if it does
    not depend on what texts say: only the white space before a text is lost. -/
theorem Throughout.of_mem_shown {n c : Node} (h : n.Throughout P) (hc : c ∈ n.shown) :
    c.Throughout P := by
  have hchildren := (throughout_iff.mp h).2
  unfold shown at hc
  split at hc
  · rcases List.mem_append.mp hc with hc | hc
    · exact hchildren c (List.mem_filter.mp hc).1
    · exact hchildren c (List.mem_filter.mp hc).1
  · exact throughout_unlabelled htext hchildren c hc
  all_goals first
    | exact absurd hc List.not_mem_nil
    | exact hchildren c hc

end Throughout

end DocSite.Node
