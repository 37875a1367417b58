/-
  DocSite.Proofs.Manifest.Summary

  Which documents are summaries, and what their manifests hold. A summary contributes
  the items of its lists and the headers of its sections. Reading fails at the first
  child of a list, in preorder, that is no entry. Otherwise the manifest has one entry
  for each of them, below the entry of the item that it stands below, and the headers
  that are not directly followed by another.
-/
import DocSite.Proofs.Manifest.Entries
import Mathlib.Data.List.Infix

namespace DocSite

/-! ## Entries in preorder -/

namespace Node

/-- An entry has the fields that the lead of an item gives, and pages if a list follows
    the item's first child. -/
def Describes (n : Node) (entry : ManifestItem) : Prop :=
  ∃ lead, leadOf? n.children = some lead ∧ Leads lead { entry with pages := none } ∧
    (entry.pages.isSome ↔ n.children.tail.filter isList ≠ [])

end Node

namespace ManifestItem

mutual

/-- An entry and all entries below it, each before those below it. -/
def preorder : ManifestItem → List ManifestItem
  | ⟨id, title, url, kind, isExternal, pages⟩ =>
    ⟨id, title, url, kind, isExternal, pages⟩ :: preorderPages pages

/-- The entries of pages, when there is a list of them. -/
def preorderPages : Option (List ManifestItem) → List ManifestItem
  | some items => preorderAll items
  | none => []

/-- The entries of entries one after the other. -/
def preorderAll : List ManifestItem → List ManifestItem
  | [] => []
  | item :: rest => item.preorder ++ preorderAll rest

end

theorem preorder_eq (item : ManifestItem) :
    item.preorder = item :: preorderPages item.pages := by
  cases item
  rfl

theorem preorderAll_eq (items : List ManifestItem) :
    preorderAll items = items.flatMap preorder := by
  induction items with
  | nil => rfl
  | cons item rest ih => rw [preorderAll, List.flatMap_cons, ih]

end ManifestItem

open ManifestItem

/-- What describes the nodes one by one describes their entries one after the other. -/
theorem forall₂_flatMap {α β γ δ : Type} {R : α → β → Prop} {S : γ → δ → Prop}
    {f : α → List γ} {g : β → List δ} {l : List α} {m : List β} (h : List.Forall₂ R l m)
    (hstep : ∀ a ∈ l, ∀ b, R a b → List.Forall₂ S (f a) (g b)) :
    List.Forall₂ S (l.flatMap f) (m.flatMap g) := by
  induction h with
  | nil => exact .nil
  | cons hhead _ ih =>
    obtain ⟨hfirst, hrest⟩ := List.forall_mem_cons.mp hstep
    rw [List.flatMap_cons, List.flatMap_cons]
    exact List.rel_append (hfirst _ hhead) (ih hrest)

namespace Node

/-- The entry of an item and the entries below it describe the item and the items
    below it, one by one. -/
theorem Gives.describes {n : Node} {entry : ManifestItem} (h : n.Gives entry) :
    List.Forall₂ Describes n.entryNodes entry.preorder := by
  induction hsize : n.size using Nat.strongRecOn generalizing n entry with
  | _ size ih =>
    subst hsize
    rw [entryNodes_eq]
    cases h with
    -- The three goals of both cases: the fields of the entry, its pages, what is below.
    | @single attributes ownAttributes lead content rest _ hown hnone =>
      have hbelow : listed rest = [] := by
        rw [listed, hnone]
        rfl
      have hpages : entry.pages = none := by
        rw [← hown.without_pages]
      rw [preorder_eq, hpages]
      refine .cons ⟨lead, rfl, ?_, ?_⟩ ?_
      · rw [hown.without_pages]
        exact hown
      · rw [hpages]
        exact ⟨(absurd · Bool.false_ne_true), fun hlist => absurd hnone hlist⟩
      · show List.Forall₂ Describes ((listed rest).flatMap entryNodes) []
        rw [hbelow]
        exact .nil
    | @parent attributes ownAttributes lead content rest own pages hown hsome hbelow =>
      rw [preorder_eq]
      refine .cons ⟨lead, rfl, ?_, ?_⟩ ?_
      · show Leads lead { own with pages := none }
        rw [hown.without_pages]
        exact hown
      · exact ⟨fun _ => hsome, fun _ => rfl⟩
      · show List.Forall₂ Describes ((listed rest).flatMap entryNodes) (preorderAll pages)
        rw [preorderAll_eq]
        refine forall₂_flatMap hbelow fun child hchild item hitem => ?_
        exact ih child.size (size_lt_of_mem_nestedItems hchild) hitem rfl

theorem Describes.not_isHeader {n : Node} {entry : ManifestItem} (h : n.Describes entry) :
    entry.isHeader = false := by
  obtain ⟨lead, -, hleads, -⟩ := h
  exact hleads.not_isHeader

/-- An item gives no headers, at any depth. -/
theorem Gives.not_isHeader {n : Node} {entry : ManifestItem} (h : n.Gives entry) :
    ∀ e ∈ entry.preorder, e.isHeader = false := by
  have hkinds : List.Forall₂ (fun e _ => e.isHeader = false ∧ True) entry.preorder n.entryNodes :=
    h.describes.flip.imp fun _ _ hdescribes => ⟨Describes.not_isHeader hdescribes, trivial⟩
  exact ((List.forall₂_and_left _ _).mp hkinds).1

end Node

/-! ## Contributions -/

/-- What a summary contributes to its manifest. -/
inductive Contribution where
  /-- The entry of a child of a list. -/
  | item (node : Node)
  /-- The header of a section, with its text as it is written. -/
  | separator (rawText : String)

namespace Contribution

/-- Whether a header is contributed. -/
def isSeparator : Contribution → Bool
  | .item _ => false
  | .separator _ => true

/-- The nodes that a contribution has entries for. -/
def nodes : Contribution → List Node
  | .item node => node.entryNodes
  | .separator _ => []

/-- The header that is contributed, if it is one. -/
def header? : Contribution → Option ManifestItem
  | .item _ => none
  | .separator rawText => some (.header (trimmed rawText))

/-- The entry of a contribution, when it can be read. -/
def entry : Contribution → Except SummaryError ManifestItem
  | .item node => itemEntry node
  | .separator rawText => pure (.header (trimmed rawText))

/-- The entry that a contribution gives. -/
inductive Gives : Contribution → ManifestItem → Prop
  | item {node : Node} {entry : ManifestItem} : node.Gives entry → Gives (.item node) entry
  | separator (rawText : String) : Gives (.separator rawText) (.header (trimmed rawText))

/-- The contributions without those headers that are directly followed by another. -/
def standing (contributions : List Contribution) : List Contribution :=
  contributions.tails.flatMap fun
    | [] => []
    | c :: rest => if c.isSeparator && rest.head?.any isSeparator then [] else [c]

end Contribution

/-- What a node at the top level of a summary contributes: a list its children, and
    a heading that separates sections its header. -/
def Node.contributed (n : Node) : List Contribution :=
  match n.kind with
  | .list .. => n.children.map .item
  | .header level rawText => if level = sectionLevel then [.separator rawText] else []
  | _ => []

/-- What a summary contributes, in order. -/
def Node.contributions (root : Node) : List Contribution := root.children.flatMap contributed

open Contribution SummaryError

theorem topEntries_eq (nodes : List Node) :
    topEntries nodes = (nodes.flatMap Node.contributed).mapM Contribution.entry := by
  induction nodes with
  | nil => rfl
  | cons n rest ih =>
    obtain ⟨kind, attributes, children⟩ := n
    rw [List.flatMap_cons, List.mapM_append, ← ih]
    -- Lists and headers contribute; every other kind is passed over.
    cases kind
    case list ordered start tight =>
      have hitems : (children.map Contribution.item).mapM entry = itemEntries children := by
        rw [itemEntries_eq, List.mapM_map]
        rfl
      rw [topEntries, Node.contributed, hitems]
    case header level rawText =>
      have hhere : Node.contributed ⟨.header level rawText, attributes, children⟩
          = if level = sectionLevel then [.separator rawText] else [] := rfl
      rw [topEntries, hhere]
      by_cases hlevel : level = sectionLevel
      · simp only [if_pos hlevel]
        cases topEntries rest <;> rfl
      · simp only [if_neg hlevel]
        cases topEntries rest <;> rfl
    all_goals
      rw [topEntries]
      · cases topEntries rest <;> rfl
      all_goals nofun

theorem collapseEmptySections_cons (item : ManifestItem) (rest : List ManifestItem) :
    collapseEmptySections (item :: rest) =
      if item.isHeader && rest.head?.any isHeader then collapseEmptySections rest
      else item :: collapseEmptySections rest := by
  cases rest with
  | nil =>
    rw [List.head?_nil, Option.any_none, Bool.and_false, if_neg Bool.false_ne_true]
    rfl
  | cons next rest =>
    rw [collapseEmptySections, List.head?_cons, Option.any_some]

theorem standing_cons (c : Contribution) (rest : List Contribution) :
    standing (c :: rest) =
      if c.isSeparator && rest.head?.any isSeparator then standing rest
      else c :: standing rest := by
  rw [standing, List.tails_cons, List.flatMap_cons]
  dsimp only
  split
  · rfl
  · rfl

theorem Contribution.Gives.isHeader_eq {c : Contribution} {item : ManifestItem} (h : c.Gives item) :
    item.isHeader = c.isSeparator := by
  cases h with
  | separator rawText => rfl
  | item hitem =>
    refine hitem.not_isHeader item ?_
    rw [preorder_eq]
    exact List.mem_cons_self

theorem gives_of_entry {c : Contribution} {item : ManifestItem} (h : c.entry = .ok item) :
    c.Gives item := by
  cases c with
  | item node => exact .item (Node.gives_of_itemEntry h)
  | separator rawText =>
    rw [← Except.ok.inj h]
    exact .separator rawText

/-- The headers that are left out are those that do not stand. -/
theorem forall₂_collapseEmptySections {cs : List Contribution} {entries : List ManifestItem}
    (h : List.Forall₂ Contribution.Gives cs entries) :
    List.Forall₂ Contribution.Gives (standing cs) (collapseEmptySections entries) := by
  induction h with
  | nil => exact .nil
  | @cons c item rest more hhead hrest ih =>
    -- Entries and contributions agree on whether a header comes next.
    have hnext : more.head?.any isHeader = rest.head?.any isSeparator := by
      cases hrest with
      | nil => rfl
      | cons hnext _ => exact hnext.isHeader_eq
    rw [standing_cons, collapseEmptySections_cons, hhead.isHeader_eq, hnext]
    split
    · exact ih
    · exact .cons hhead ih

/-- Items stand, whatever follows them. -/
theorem flatMap_nodes_standing (cs : List Contribution) :
    (standing cs).flatMap nodes = cs.flatMap nodes := by
  induction cs with
  | nil => rfl
  | cons c rest ih =>
    rw [standing_cons, List.flatMap_cons]
    split
    · next h =>
      cases c with
      | item node => exact absurd h Bool.false_ne_true
      -- What is left out is a header, which has no nodes.
      | separator rawText => exact ih
    · rw [List.flatMap_cons, ih]

theorem flatMap_nodes_contributions (root : Node) :
    root.contributions.flatMap nodes = root.summaryNodes := by
  rw [Node.contributions, Node.summaryNodes]
  induction root.children with
  | nil => rfl
  | cons n rest ih =>
    have hhere : n.contributed.flatMap nodes
        = (if n.isList then n.children else []).flatMap Node.entryNodes := by
      obtain ⟨kind, attributes, children⟩ := n
      cases kind
      case list ordered start tight =>
        rw [Node.contributed, List.flatMap_map]
        rfl
      case header level rawText =>
        rw [Node.contributed]
        dsimp only
        split <;> rfl
      all_goals rfl
    rw [List.flatMap_cons, List.flatMap_append, ih, hhere, Node.listed_cons, List.flatMap_append]

/-- A summary fails as the first fault of the children of its lists. -/
theorem of?_manifestOf (root : Node) :
    of? (manifestOf root) = root.summaryNodes.findSome? ownFault? := by
  have hfault : of? (manifestOf root) = of? (topEntries root.children) := by
    unfold manifestOf
    cases topEntries root.children <;> rfl
  rw [hfault, topEntries_eq, of?_mapM, ← flatMap_nodes_contributions]
  refine (findSome?_flatMap_eq fun c _ => ?_).symm
  cases c with
  | item node => exact (of?_itemEntry node).symm
  | separator rawText => rfl

/-! ## Manifests -/

/-- A manifest is that of a summary. -/
structure Node.Summarizes (root : Node) (items : List ManifestItem) : Prop where
  /-- The entries at the top level are those of the contributions that stand. -/
  entries : List.Forall₂ Contribution.Gives (standing root.contributions) items
  /-- In preorder, the entries that are no headers describe the children of the
      summary's lists. -/
  preorder : List.Forall₂ Node.Describes root.summaryNodes
    ((preorderAll items).filter (!·.isHeader))
  /-- The headers at the top level are those that stand. -/
  headers : items.filter isHeader = (standing root.contributions).filterMap header?
  /-- There are no other headers, at any depth. -/
  topLevel : (preorderAll items).filter isHeader = items.filter isHeader

/-- What a contribution gives is an entry of an item, with no header in it, or a header. -/
theorem Contribution.Gives.preorder {c : Contribution} {item : ManifestItem} (h : c.Gives item) :
    List.Forall₂ Node.Describes c.nodes (item.preorder.filter (!·.isHeader)) ∧
      item.preorder.filter isHeader = c.header?.toList ∧
      [item].filter isHeader = c.header?.toList := by
  have hkind := h.isHeader_eq
  cases h with
  | separator rawText => exact ⟨.nil, rfl, rfl⟩
  | @item node _ hitem =>
    have hnone := hitem.not_isHeader
    refine ⟨?_, ?_, ?_⟩
    · rw [List.filter_eq_self.mpr fun e he => by rw [hnone e he]; rfl]
      exact hitem.describes
    · exact List.filter_eq_nil_iff.mpr fun e he => by rw [hnone e he]; exact Bool.false_ne_true
    · exact List.filter_cons_of_neg (by rw [hkind]; exact Bool.false_ne_true)

/-- The headers of a manifest are those that are contributed, all at the top level. -/
theorem headers_of_forall₂ {cs : List Contribution} {items : List ManifestItem}
    (h : List.Forall₂ Contribution.Gives cs items) :
    items.filter isHeader = cs.filterMap header? ∧
      (preorderAll items).filter isHeader = cs.filterMap header? := by
  rw [preorderAll_eq]
  induction h with
  | nil => exact ⟨rfl, rfl⟩
  | @cons c item rest more hhead _ ih =>
    obtain ⟨-, hbelow, hown⟩ := hhead.preorder
    have hhere : (c :: rest).filterMap header? = c.header?.toList ++ rest.filterMap header? := by
      rw [List.filterMap_cons]
      cases c.header? <;> rfl
    rw [hhere]
    constructor
    · rw [← List.singleton_append, List.filter_append, hown, ih.1]
    · rw [List.flatMap_cons, List.filter_append, hbelow, ih.2]

theorem summarizes_of_forall₂ {root : Node} {items : List ManifestItem}
    (h : List.Forall₂ Contribution.Gives (standing root.contributions) items) :
    root.Summarizes items := by
  obtain ⟨htop, hall⟩ := headers_of_forall₂ h
  refine ⟨h, ?_, htop, hall.trans htop.symm⟩
  rw [← flatMap_nodes_contributions, ← flatMap_nodes_standing, preorderAll_eq,
    List.filter_flatMap]
  exact forall₂_flatMap h fun c _ item hitem => hitem.preorder.1

/-- **A summary has its manifest, or the first fault of its items.** A summary is read
    exactly if every child of its lists is an item that begins with a paragraph that
    begins with a text or a link, and each such link has a page id. Otherwise the
    error is that of the first child at fault; a target is at fault only if it ends in
    a slash and a dot, and only in a child that has the shape of an entry. The manifest
    of a summary holds an entry for each child of its lists, in order and below the
    entry of the item that it stands below, and the headers of its sections that are
    not empty. -/
theorem manifestOf_exact (root : Node) :
    ((∃ items, manifestOf root = .ok items) ↔
      ∀ n ∈ root.summaryNodes, n.IsEntry ∧ n.HasPageId) ∧
    (∀ e, manifestOf root = .error e → root.summaryNodes.findSome? ownFault? = some e) ∧
    (∀ target, manifestOf root = .error (.badTarget target) →
      ['/', '.'] <:+ target.toList ∧ ∃ n ∈ root.summaryNodes, n.IsEntry ∧ ¬ n.HasPageId) ∧
    ∀ items, manifestOf root = .ok items → root.Summarizes items := by
  have hfault := of?_manifestOf root
  refine ⟨?_, ?_, ?_, ?_⟩
  · rw [← of?_eq_none_iff, hfault, List.findSome?_eq_none_iff]
    simp only [ownFault?_eq_none_iff]
  · intro e he
    rw [← hfault, he]
    rfl
  · intro target htarget
    rw [htarget] at hfault
    obtain ⟨n, hn, hown⟩ := List.exists_of_findSome?_eq_some hfault.symm
    obtain ⟨hentry, hid, htarget⟩ := of_ownFault?_eq_badTarget hown
    exact ⟨suffix_of_pageId?_eq_none htarget, n, hn, hentry, hid⟩
  · intro items hitems
    obtain ⟨entries, hentries, rfl⟩ := map_eq_ok_iff.mp hitems
    rw [topEntries_eq, mapM_eq_ok_iff] at hentries
    have hgives := hentries.imp fun _ _ hentry => gives_of_entry hentry
    exact summarizes_of_forall₂ (forall₂_collapseEmptySections hgives)

/-- An empty list does not keep two headers apart. -/
example :
    manifestOf (.ofKind .document [.heading 2 [.ofText "A"], .ofKind (.list false 1 true) [],
      .heading 2 [.ofText "B"], .ofKind (.list false 1 true) [.linkItem "/b.md" "b"]])
      = .ok [.header "B", .page "b" "b"] := by rfl

/-- A summary of the given items. -/
def Node.summaryOf (items : List Node) : Node :=
  .ofKind .document [.ofKind (.list false 1 true) items]

/-- The extension of `x.é/.` is one character of two bytes: three bytes off the end of
    the target, the cut is inside that character. -/
theorem manifestOf_uncut_target :
    (∀ n ∈ (Node.summaryOf [.linkItem "x.é/." "X"]).summaryNodes, n.IsEntry) ∧
      manifestOf (.summaryOf [.linkItem "x.é/." "X"]) = .error (.badTarget "x.é/.") := by
  have hnodes : (Node.summaryOf [.linkItem "x.é/." "X"]).summaryNodes
      = [.linkItem "x.é/." "X"] := by
    show [Node.linkItem "x.é/." "X"].flatMap Node.entryNodes = _
    rw [List.flatMap_singleton, Node.entryNodes_eq]
    rfl
  constructor
  · rw [hnodes, List.forall_mem_singleton]
    exact ⟨_, _, .linkTo "x.é/." [.ofText "X"], [], [], rfl, .inl rfl⟩
  · rfl

end DocSite
