/-
  DocSite.Proofs.Manifest.Tasks

  Task items in summaries. A task item becomes a list item whose first paragraph begins with
  its checkbox, which is neither a text nor a link: no task item has the shape of an entry. The
  lists of a summary are the same in a parsed document and in its tree, so that a task item in
  one of them leaves the summary without a manifest.
-/
import DocSite.Markdown.Lower
import DocSite.Proofs.Manifest.Entries
import DocSite.Proofs.Manifest.Summary

namespace DocSite.Node

/-! ## What stands below -/

theorem mem_entryNodes_self (n : Node) : n ∈ n.entryNodes := by
  rw [entryNodes_eq]
  exact List.mem_cons_self

/-- What stands below something that stands below a node stands below the node. -/
theorem mem_entryNodes_nested {n m c : Node} (hm : m ∈ n.entryNodes) (hc : c ∈ m.nestedItems) :
    c ∈ n.entryNodes := by
  -- On the size: the way from the node to the other one begins with an item below the node.
  induction hsize : n.size using Nat.strongRecOn generalizing n with
  | _ size ih =>
    subst hsize
    rw [entryNodes_eq] at hm ⊢
    rcases List.mem_cons.mp hm with rfl | hm
    · exact List.mem_cons_of_mem _ (List.mem_flatMap.mpr ⟨c, hc, mem_entryNodes_self c⟩)
    · obtain ⟨child, hchild, hm⟩ := List.mem_flatMap.mp hm
      have hbelow := ih child.size (size_lt_of_mem_nestedItems hchild) hm rfl
      exact List.mem_cons_of_mem _ (List.mem_flatMap.mpr ⟨child, hchild, hbelow⟩)

theorem mem_summaryNodes_nested {root m c : Node} (hm : m ∈ root.summaryNodes)
    (hc : c ∈ m.nestedItems) : c ∈ root.summaryNodes := by
  obtain ⟨top, htop, hm⟩ := List.mem_flatMap.mp hm
  exact List.mem_flatMap.mpr ⟨top, htop, mem_entryNodes_nested hm hc⟩

end DocSite.Node

namespace DocSite.Markdown

open DocSite.Node DocSite.SummaryError DocSite.Text

/-! ## Task items -/

/-- The same nodes, but for the white space at the start of a first text. -/
inductive StartTrimmed : List Node → List Node → Prop
  | nil : StartTrimmed [] []
  | text {value : String} (attributes : Attributes) (children rest : List Node) :
      StartTrimmed (⟨.text value, attributes, children⟩ :: rest)
        (⟨.text (String.ofList (trimStart value.toList)), attributes, children⟩ :: rest)
  | other {first : Node} (rest : List Node) : (∀ value, first.kind ≠ .text value) →
      StartTrimmed (first :: rest) (first :: rest)

theorem startTrimmed_trimFirstText (content : List Node) :
    StartTrimmed content (trimFirstText content) := by
  cases content with
  | nil => exact .nil
  | cons first rest =>
    obtain ⟨kind, attributes, children⟩ := first
    cases kind with
    | text value => exact .text attributes children rest
    | _ => exact .other rest nofun

/-- A task item: a list item whose first child is a paragraph that begins with the checkbox.
    The paragraph is that of the item if it begins with one, and all children are kept. -/
inductive IsTaskItem (done : Bool) : List Node → Node → Prop
  | paragraph {attributes : Attributes} {content kept rest : List Node} :
      StartTrimmed content kept →
      IsTaskItem done (⟨.paragraph, attributes, content⟩ :: rest)
        ⟨.listItem, .ofList [("class", "task-list-item")],
          ⟨.paragraph, attributes, checkbox done :: kept⟩ :: rest⟩
  | other {children : List Node} : (∀ first ∈ children.head?, first.kind ≠ .paragraph) →
      IsTaskItem done children
        ⟨.listItem, .ofList [("class", "task-list-item")],
          .ofKind .paragraph [checkbox done] :: children⟩

theorem isTaskItem_lowerTask (done : Bool) (children : List Node) :
    IsTaskItem done children (lowerTask done children) := by
  unfold lowerTask
  split
  · next attributes content rest => exact .paragraph (startTrimmed_trimFirstText content)
  · next hother =>
    refine .other fun first hfirst hkind => ?_
    obtain ⟨kind, attributes, content⟩ := first
    obtain ⟨rest, rfl⟩ := List.head?_eq_some_iff.mp hfirst
    dsimp only at hkind
    exact hother attributes content rest (by rw [hkind])

/-- A task item begins with its checkbox. -/
theorem IsTaskItem.leadOf?_eq {done : Bool} {children : List Node} {n : Node}
    (h : IsTaskItem done children n) : leadOf? n.children = some (checkbox done) := by
  cases h <;> rfl

theorem IsTaskItem.kind_eq {done : Bool} {children : List Node} {n : Node}
    (h : IsTaskItem done children n) : n.kind = .listItem := by
  cases h <;> rfl

/-- No task item has the shape of an entry. -/
theorem IsTaskItem.not_isEntry {done : Bool} {children : List Node} {n : Node}
    (h : IsTaskItem done children n) : ¬ n.IsEntry := by
  rw [isEntry_iff, h.leadOf?_eq]
  rintro ⟨-, lead, hlead, hkind⟩
  obtain rfl := Option.some.inj hlead
  rcases hkind with hkind | ⟨value, hkind⟩ <;> cases hkind

/-! ## The lists of a summary -/

/-- The items of a block, if it is a list. -/
def Block.items : Block (List Inline) → List (Item (List Inline))
  | .list _ _ _ items => items
  | _ => []

/-- The items of the lists among blocks. -/
def listedItems (blocks : List (Block (List Inline))) : List (Item (List Inline)) :=
  blocks.flatMap Block.items

/-- An item of a summary's lists: of a list at the top level, or of a list behind the first
    child of such an item. -/
inductive InSummary (document : Document) : Item (List Inline) → Prop
  | top {item : Item (List Inline)} : item ∈ listedItems document → InSummary document item
  | nested {done : Option Bool} {body : List (Block (List Inline))} {item : Item (List Inline)} :
      InSummary document (.mk done body) → item ∈ listedItems body.tail →
      InSummary document item

theorem lowerItems_eq (items : List (Item (List Inline))) :
    lowerItems items = items.map Item.lower := by
  induction items with
  | nil => rfl
  | cons item rest ih => rw [lowerItems, List.map_cons, ih]

theorem lowerBlocks_eq (blocks : List (Block (List Inline))) :
    lowerBlocks blocks = blocks.map Block.lower := by
  induction blocks with
  | nil => rfl
  | cons block rest ih => rw [lowerBlocks, List.map_cons, ih]

/-- The lists among blocks become the lists among nodes. -/
theorem listed_lowerBlocks (blocks : List (Block (List Inline))) :
    listed (lowerBlocks blocks) = (listedItems blocks).map Item.lower := by
  induction blocks with
  | nil => rfl
  | cons block rest ih =>
    have hhere : (if block.lower.isList then block.lower.children else []) =
        block.items.map Item.lower := by
      cases block with
      | list ordered start tight items =>
        rw [Block.lower]
        exact lowerItems_eq items
      | _ =>
        rw [Block.lower]
        rfl
    rw [lowerBlocks, listed_cons, ih, hhere, listedItems, listedItems, List.flatMap_cons,
      List.map_append]

/-- What stands in the lists behind the first child of a parsed item stands below the item. -/
theorem mem_nestedItems_lower {done : Option Bool} {body : List (Block (List Inline))}
    {item : Item (List Inline)} (h : item ∈ listedItems body.tail) :
    item.lower ∈ (Item.mk done body).lower.nestedItems := by
  have hbehind : item.lower ∈ listed (lowerBlocks body).tail := by
    rw [lowerBlocks_eq, ← List.map_tail, ← lowerBlocks_eq, listed_lowerBlocks]
    exact List.mem_map_of_mem h
  cases done with
  | none =>
    rw [Item.lower, nestedItems]
    exact hbehind
  | some done =>
    have htask := isTaskItem_lowerTask done (lowerBlocks body)
    rw [Item.lower, nestedItems, if_pos htask.kind_eq]
    generalize lowerBlocks body = children at hbehind htask ⊢
    generalize lowerTask done children = n at htask ⊢
    cases htask with
    | paragraph hkept => exact hbehind
    | other hfirst =>
      -- The paragraph of the checkbox comes first, and all children stand behind it.
      rw [List.tail_cons]
      cases children with
      | nil => exact hbehind
      | cons first rest =>
        rw [listed_cons]
        exact List.mem_append_right _ hbehind

/-- What is in the lists of a parsed summary is in the lists of its tree. -/
theorem mem_summaryNodes_of_inSummary {document : Document} {item : Item (List Inline)}
    (h : InSummary document item) : item.lower ∈ document.lower.summaryNodes := by
  induction h with
  | top hitem =>
    refine List.mem_flatMap.mpr ⟨_, ?_, mem_entryNodes_self _⟩
    show _ ∈ listed (lowerBlocks document)
    rw [listed_lowerBlocks]
    exact List.mem_map_of_mem hitem
  | nested _ hitem ih => exact mem_summaryNodes_nested ih (mem_nestedItems_lower hitem)

/-! ## Summaries with a task item -/

/-- A task item becomes a list item that begins with its checkbox, whatever its children are. A
    summary with a task item in one of its lists has no manifest: it fails for its shape, unless
    the target of a link that an entry before the task item begins with has no page id. -/
theorem manifestOf_task (document : Document) (done : Bool) (body : List (Block (List Inline))) :
    IsTaskItem done (lowerBlocks body) (Item.mk (some done) body).lower ∧
    (InSummary document (.mk (some done) body) →
      ∃ e, manifestOf document.lower = .error e ∧
        ((∀ n ∈ document.lower.summaryNodes, n.HasPageId) → ∀ target, e ≠ .badTarget target) ∧
        ∀ target, e = .badTarget target → ['/', '.'] <:+ target.toList ∧
          ∃ before n after, document.lower.summaryNodes = before ++ n :: after ∧
            (∀ m ∈ before, m.IsEntry ∧ m.HasPageId) ∧ n.IsEntry ∧ ¬ n.HasPageId ∧
            (Item.mk (some done) body).lower ∈ after) := by
  refine ⟨isTaskItem_lowerTask done _, fun h => ?_⟩
  have hmem := mem_summaryNodes_of_inSummary h
  have hshape : ¬ (Item.mk (some done) body).lower.IsEntry :=
    (isTaskItem_lowerTask done _).not_isEntry
  have hfault := of?_manifestOf document.lower
  cases hresult : manifestOf document.lower with
  | ok items =>
    -- A manifest needs all nodes to be entries.
    rw [hresult] at hfault
    have hnone := List.findSome?_eq_none_iff.mp hfault.symm _ hmem
    exact absurd ((ownFault?_eq_none_iff _).mp hnone).1 hshape
  | error e =>
    rw [hresult] at hfault
    obtain ⟨before, n, after, hnodes, hn, hbefore⟩ :=
      List.findSome?_eq_some_iff.mp hfault.symm
    refine ⟨e, rfl, fun hids target he => ?_, fun target he => ?_⟩
    · obtain ⟨-, hid, -⟩ := of_ownFault?_eq_badTarget (he ▸ hn)
      exact hid (hids n (hnodes ▸ List.mem_append_right _ List.mem_cons_self))
    · obtain ⟨hentry, hid, htarget⟩ := of_ownFault?_eq_badTarget (he ▸ hn)
      have hentries : ∀ m ∈ before, m.IsEntry ∧ m.HasPageId := fun m hm =>
        (ownFault?_eq_none_iff m).mp (hbefore m hm)
      refine ⟨suffix_of_pageId?_eq_none htarget, before, n, after, hnodes, hentries, hentry, hid,
        ?_⟩
      rw [hnodes] at hmem
      rcases List.mem_append.mp hmem with hfront | hback
      · exact absurd (hentries _ hfront).1 hshape
      · rcases List.mem_cons.mp hback with heq | hback
        · exact absurd (heq ▸ hentry) hshape
        · exact hback

/-- A task item that begins with code, in a list below an entry. -/
theorem manifestOf_task_nested :
    let task := Item.mk (some true) [.code "sh" "make\n"]
    let link := Inline.link "/a.md" "" [.text "A"]
    let document : Document :=
      [.list true 1 true [.mk none [.paragraph [link], .rule, .list false 1 true [task]]]]
    InSummary document task ∧ (∀ n ∈ document.lower.summaryNodes, n.HasPageId) ∧
      IsTaskItem true (lowerBlocks [.code "sh" "make\n"]) task.lower ∧
      ∃ e, manifestOf document.lower = .error e ∧ ∀ target, e ≠ .badTarget target := by
  intro task link document
  have htask : InSummary document task :=
    .nested (.top (List.mem_singleton_self _)) (List.mem_singleton_self task)
  -- The outer item and the task item are read, and nothing else.
  have hnodes : document.lower.summaryNodes =
      [(Item.mk none [.paragraph [link], .rule, .list false 1 true [task]]).lower, task.lower] := by
    have hbelow : task.lower.entryNodes = [task.lower] := by
      rw [entryNodes_eq]
      rfl
    show [(Item.mk none [.paragraph [link], .rule, .list false 1 true [task]]).lower].flatMap
      entryNodes = _
    rw [List.flatMap_singleton, entryNodes_eq]
    show _ :: [task.lower].flatMap entryNodes = _
    rw [List.flatMap_singleton, hbelow]
  have hids : ∀ n ∈ document.lower.summaryNodes, n.HasPageId := by
    rw [hnodes, List.forall_mem_cons, List.forall_mem_singleton]
    constructor
    · intro lead hlead _
      cases hlead
      decide
    · intro lead hlead hkind
      cases hlead
      cases hkind
  obtain ⟨hitem, hsummary⟩ := manifestOf_task document true [.code "sh" "make\n"]
  obtain ⟨e, he, hshape, -⟩ := hsummary htask
  exact ⟨htask, hids, hitem, e, he, hshape hids⟩

/-- The link before the task item has a target whose extension cannot be cut off. -/
theorem manifestOf_task_uncut_target :
    let task := Item.mk (some false) [.paragraph [.text "t"]]
    let document : Document :=
      [.list false 1 true [.mk none [.paragraph [.link "x.é/." "" [.text "X"]]], task]]
    InSummary document task ∧ manifestOf document.lower = .error (.badTarget "x.é/.") :=
  ⟨.top (List.mem_cons_of_mem _ (List.mem_singleton_self _)), rfl⟩

end DocSite.Markdown
