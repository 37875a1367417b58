/-
  DocSite.Proofs.Document.Visited

  The nodes of a tree that reach the page, in the order in which the page prints
  them: a node, and then everything that its shown children bring. What stands
  below an image or a leaf, or in the bold label of an admonition, is not visited,
  and the footnotes of a document are visited after everything else in it.
-/
import DocSite.Proofs.Document.Shown

namespace DocSite

/-! ## Searching -/

/-- Searching lists one after the other, given what is found in each. -/
theorem findSome?_flatMap_eq {α β γ : Type} {g : α → List β} {f : β → Option γ}
    {found : α → Option γ} {l : List α} (h : ∀ a ∈ l, (g a).findSome? f = found a) :
    (l.flatMap g).findSome? f = l.findSome? found := by
  induction l with
  | nil => rfl
  | cons a rest ih =>
    obtain ⟨ha, hrest⟩ := List.forall_mem_cons.mp h
    rw [List.flatMap_cons, List.findSome?_append, ha, ih hrest, List.findSome?_cons]
    cases found a <;> rfl

namespace Node

/-! ## Visited nodes -/

/-- The nodes of a tree that reach the page, each before what it shows. -/
def visited (n : Node) : List Node := n :: n.shown.attach.flatMap fun child => child.1.visited
termination_by n.size
decreasing_by exact size_lt_of_mem_shown child.2

theorem visited_eq (n : Node) : n.visited = n :: n.shown.flatMap visited := by
  rw [visited, List.flatMap_subtype (g := visited) fun _ _ => rfl, List.unattach_attach]

/-- What holds throughout a tree holds of the visited nodes, if it does not depend on
    what texts say. -/
theorem Throughout.of_mem_visited {P : NodeKind → Attributes → Prop}
    (htext : ∀ value other attributes, P (.text value) attributes → P (.text other) attributes)
    {n m : Node} (h : n.Throughout P) (hm : m ∈ n.visited) : P m.kind m.attributes := by
  -- The induction is on the size: a visited node need not be in the tree itself, since the
  -- first paragraph of an admonition is cut.
  induction hsize : n.size using Nat.strongRecOn generalizing n with
  | _ size ih =>
    subst hsize
    rw [visited_eq] at hm
    rcases List.mem_cons.mp hm with rfl | hm
    · exact (throughout_iff.mp h).1
    · obtain ⟨c, hc, hmc⟩ := List.mem_flatMap.mp hm
      exact ih c.size (size_lt_of_mem_shown hc) (h.of_mem_shown htext hc) hmc rfl

/-! ## Code elements -/

/-- The code element that a node is. A directive selects lines, of which code inside
    text has none. -/
def codeSpot? (n : Node) : Option CodeSpot :=
  match n.kind with
  | .codeBlock code =>
    some ⟨code, CodeClass.language (n.attribute? "class"), .block,
      CodeClass.directive? (n.attribute? "class")⟩
  | .codeSpan code => some ⟨code, CodeClass.language (n.attribute? "class"), .span, none⟩
  | _ => none

/-- The code elements that reach the page, in the order in which it prints them. -/
def codeSpots (document : Node) : List CodeSpot := document.visited.filterMap codeSpot?

end Node

end DocSite
