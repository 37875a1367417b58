/-
  DocSite.Proofs.Manifest.Entries

  The entries of a summary's lists. These lists are told off the tree alone: those
  among the nodes, and those that follow the first child of an item of such a list.
  A child of such a list that is no entry fails, and so does everything that it
  stands below; an item that is read has the entry of its lead, and below it the
  entries of the lists that follow.

  Failure and success are taken apart. Which error there is follows from the list of
  all children of a summary's lists, in preorder; what the entries are is said by an
  inductive description of an item and its entry.
-/
import DocSite.Manifest.Summary
import DocSite.Proofs.Document.Visited
import DocSite.Proofs.Except
import DocSite.Proofs.Path

namespace DocSite

open DocSite.Text

/-! ## The lists of a summary -/

namespace Node

/-- Whether a node is a list. -/
def isList (n : Node) : Bool :=
  match n.kind with
  | .list .. => true
  | _ => false

theorem exists_of_isList {n : Node} (h : n.isList = true) :
    ∃ ordered start tight attributes children,
      n = ⟨.list ordered start tight, attributes, children⟩ := by
  obtain ⟨kind, attributes, children⟩ := n
  cases kind
  case list ordered start tight => exact ⟨ordered, start, tight, attributes, children, rfl⟩
  all_goals nomatch h

/-- What the lists among nodes hold. -/
def listed (nodes : List Node) : List Node := (nodes.filter isList).flatMap children

/-- What stands below an item: the children of the lists that follow its first
    child. Nothing stands below any other node. -/
def nestedItems (n : Node) : List Node := if n.kind = .listItem then listed n.children.tail else []

theorem listed_cons (n : Node) (rest : List Node) :
    listed (n :: rest) = (if n.isList then n.children else []) ++ listed rest := by
  rw [listed, listed, List.filter_cons]
  split <;> rfl

theorem size_lt_of_mem_listed {c : Node} {nodes : List Node} (h : c ∈ listed nodes) :
    c.size < sizeAll nodes := by
  obtain ⟨list, hlist, hc⟩ := List.mem_flatMap.mp h
  have hchild := size_lt_of_mem hc
  have hle := size_le_sizeAll (List.mem_filter.mp hlist).1
  omega

theorem size_lt_of_mem_nestedItems {c n : Node} (h : c ∈ n.nestedItems) : c.size < n.size := by
  unfold nestedItems at h
  split at h
  · have hlt := size_lt_of_mem_listed h
    have htail : sizeAll n.children.tail ≤ sizeAll n.children := by
      cases n.children with
      | nil => exact Nat.le_refl _
      | cons first rest =>
        rw [List.tail_cons, sizeAll]
        omega
    rw [size_eq n]
    omega
  · exact absurd h List.not_mem_nil

/-- A node and all that stands below it, each before what stands below it. -/
def entryNodes (n : Node) : List Node :=
  n :: n.nestedItems.attach.flatMap fun child => child.1.entryNodes
termination_by n.size
decreasing_by exact size_lt_of_mem_nestedItems child.2

theorem entryNodes_eq (n : Node) : n.entryNodes = n :: n.nestedItems.flatMap entryNodes := by
  rw [entryNodes, List.flatMap_subtype (g := entryNodes) fun _ _ => rfl, List.unattach_attach]

/-- The children of all lists of a summary, in preorder. -/
def summaryNodes (root : Node) : List Node := (listed root.children).flatMap entryNodes

/-- A node has the shape of an entry: it is an item that begins with a paragraph,
    and the paragraph begins with a text or a link. -/
def IsEntry (n : Node) : Prop :=
  ∃ attributes ownAttributes lead content rest,
    n = ⟨.listItem, attributes, ⟨.paragraph, ownAttributes, lead :: content⟩ :: rest⟩ ∧
      (lead.kind = .link ∨ ∃ value, lead.kind = .text value)

/-- The target of a link; a link without one leads to the empty target. -/
def target (link : Node) : String := (link.attribute? "href").getD ""

/-- If a node begins with a link as an entry does, the link's target has a page id:
    its extension can be cut off. -/
def HasPageId (n : Node) : Prop :=
  ∀ lead, leadOf? n.children = some lead → lead.kind = .link →
    (pageId? lead.target.toList).isSome

/-! ## Entries -/

/-- The entry that a lead gives, apart from the pages below it. -/
inductive Leads : Node → ManifestItem → Prop
  | placeholder {lead : Node} {value : String} :
      lead.kind = .text value →
      Leads lead ⟨none, trimmed value, none, some .placeholder, false, none⟩
  | page {lead : Node} {id : List Char} :
      lead.kind = .link → pageId? lead.target.toList = some id →
      Leads lead ⟨some (String.ofList id), trimmed lead.innerText,
        some (String.ofList id ++ ".html"), none, Link.isExternal lead.target.toList, none⟩

theorem Leads.without_pages {lead : Node} {own : ManifestItem} (h : Leads lead own) :
    { own with pages := none } = own := by
  cases h <;> rfl

theorem Leads.not_isHeader {lead : Node} {own : ManifestItem} (h : Leads lead own) :
    own.isHeader = false := by
  cases h <;> rfl

/-- The entry that an item gives. It has pages if a list follows the first child of
    the item; these are the entries of the children of all such lists, in order. -/
inductive Gives : Node → ManifestItem → Prop
  | single {attributes ownAttributes : Attributes} {lead : Node} {content rest : List Node}
      {own : ManifestItem} :
      Leads lead own → rest.filter isList = [] →
      Gives ⟨.listItem, attributes, ⟨.paragraph, ownAttributes, lead :: content⟩ :: rest⟩ own
  | parent {attributes ownAttributes : Attributes} {lead : Node} {content rest : List Node}
      {own : ManifestItem} {pages : List ManifestItem} :
      Leads lead own → rest.filter isList ≠ [] → List.Forall₂ Gives (listed rest) pages →
      Gives ⟨.listItem, attributes, ⟨.paragraph, ownAttributes, lead :: content⟩ :: rest⟩
        { own with pages := some pages }

end Node

/-! ## Runs over lists -/

namespace SummaryError

variable {α β : Type}

/-- The error of a result that is one. -/
def of? : Except SummaryError α → Option SummaryError
  | .error e => some e
  | .ok _ => none

theorem of?_bind (x : Except SummaryError α) (f : α → Except SummaryError β) :
    of? (x >>= f) = match x with
      | .error e => some e
      | .ok a => of? (f a) := by
  cases x <;> rfl

/-- A run over a list fails as the first of its steps that fails. -/
theorem of?_mapM (f : α → Except SummaryError β) (l : List α) :
    of? (l.mapM f) = l.findSome? fun a => of? (f a) := by
  induction l with
  | nil => rfl
  | cons a rest ih =>
    rw [List.mapM_cons, of?_bind, List.findSome?_cons]
    cases f a with
    | error e => rfl
    | ok b =>
      rw [← ih]
      simp only [of?_bind]
      cases rest.mapM f <;> rfl

end SummaryError

/-! ## The functions of the manifest, equation by equation -/

open Node

theorem itemEntries_eq (nodes : List Node) : itemEntries nodes = nodes.mapM itemEntry := by
  induction nodes with
  | nil => rw [itemEntries, List.mapM_nil]
  | cons n rest ih => rw [itemEntries, List.mapM_cons, ih]

theorem nestedEntries_cons_of_not {n : Node} (h : n.isList = false) (rest : List Node) :
    nestedEntries (n :: rest) = nestedEntries rest := by
  obtain ⟨kind, attributes, children⟩ := n
  cases kind
  case list => nomatch h
  all_goals rw [nestedEntries]; nofun

theorem nestedEntries_eq (nodes : List Node) :
    nestedEntries nodes =
      if nodes.filter isList = [] then pure none
      else some <$> (listed nodes).mapM itemEntry := by
  induction nodes with
  | nil => rw [nestedEntries, List.filter_nil, if_pos rfl]
  | cons n rest ih =>
    cases hlist : n.isList with
    | false =>
      have hfilter : (n :: rest).filter isList = rest.filter isList :=
        List.filter_cons_of_neg (by rw [hlist]; exact Bool.false_ne_true)
      rw [nestedEntries_cons_of_not hlist, ih, listed, listed, hfilter]
    | true =>
      have hfilter : (n :: rest).filter isList = n :: rest.filter isList :=
        List.filter_cons_of_pos hlist
      rw [hfilter, if_neg (List.cons_ne_nil _ _), listed_cons, if_pos hlist, List.mapM_append]
      obtain ⟨ordered, start, tight, attributes, children, rfl⟩ := exists_of_isList hlist
      rw [nestedEntries, itemEntries_eq, ih]
      cases children.mapM itemEntry with
      | error e => rfl
      | ok entries =>
        split
        · next hnone =>
          -- No more lists: nothing is put after the entries of this one.
          rw [listed, hnone]
          simp [pure, Except.pure, bind, Except.bind, Functor.map, Except.map]
        · cases (listed rest).mapM itemEntry <;> rfl

theorem itemEntry_of_ne {n : Node} (h : n.kind ≠ .listItem) :
    itemEntry n = .error (.notAnItem n.kind) := by
  obtain ⟨kind, attributes, children⟩ := n
  rw [itemEntry, if_pos h]
  rfl

/-- An item has its own entry and, below it, those of the lists after its first child. -/
theorem itemEntry_eq {n : Node} (h : n.kind = .listItem) :
    itemEntry n = (do
      let entry ← entryOf n.children
      pure { entry with pages := ← nestedEntries n.children.tail }) := by
  obtain ⟨kind, attributes, children⟩ := n
  rw [itemEntry, if_neg (not_not_intro h)]
  cases children with
  | nil => rfl
  | cons first rest => rfl

theorem leadOf?_eq_some_iff {children : List Node} {lead : Node} :
    leadOf? children = some lead ↔
      ∃ attributes content rest,
        children = ⟨.paragraph, attributes, lead :: content⟩ :: rest := by
  constructor
  · intro h
    unfold leadOf? at h
    split at h
    · next attributes first content rest =>
      rw [Option.some.inj h]
      exact ⟨attributes, content, rest, rfl⟩
    · nomatch h
  · rintro ⟨attributes, content, rest, rfl⟩
    rfl

/-- An entry is read exactly where the item begins with a lead that gives it. -/
theorem entryOf_eq_ok_iff (children : List Node) (own : ManifestItem) :
    entryOf children = .ok own ↔ ∃ lead, leadOf? children = some lead ∧ Leads lead own := by
  unfold entryOf
  cases leadOf? children with
  | none => simp
  | some lead =>
    dsimp only
    constructor
    · intro h
      refine ⟨lead, rfl, ?_⟩
      split at h
      · next value hkind =>
        rw [← Except.ok.inj h]
        exact .placeholder hkind
      · next hkind =>
        unfold ManifestItem.ofLink at h
        dsimp only at h
        split at h
        · next id hid =>
          rw [← Except.ok.inj h]
          exact .page hkind hid
        · cases h
      · cases h
    · rintro ⟨_, hlead, hown⟩
      obtain rfl := Option.some.inj hlead
      cases hown with
      | placeholder hkind =>
        rw [hkind]
        rfl
      | page hkind hid =>
        rw [hkind]
        dsimp only
        unfold ManifestItem.ofLink
        dsimp only
        rw [show pageId? ((lead.attribute? "href").getD "").toList = _ from hid]
        rfl

/-! ## Failures -/

/-- A target that has no page id ends in a segment `.` after a slash. -/
theorem suffix_of_pageId?_eq_none {target : List Char} (h : pageId? target = none) :
    ['/', '.'] <:+ target := by
  by_contra hend
  obtain ⟨stem, hstem⟩ := Option.isSome_iff_exists.mp (Link.stripExtension?_isSome hend)
  rw [pageId?, hstem] at h
  nomatch h

namespace SummaryError

/-- What is wrong with a node as an entry, whatever stands below it. -/
def ownFault? (n : Node) : Option SummaryError :=
  if n.kind = .listItem then of? (entryOf n.children) else some (.notAnItem n.kind)

theorem of?_nestedEntries (nodes : List Node) :
    of? (nestedEntries nodes) = (listed nodes).findSome? fun n => of? (itemEntry n) := by
  rw [nestedEntries_eq]
  split
  · next hnone =>
    rw [listed, hnone]
    rfl
  · rw [← of?_mapM]
    cases (listed nodes).mapM itemEntry <;> rfl

/-- A child of a summary list fails as the first fault of what stands below it, and
    of itself before that. -/
theorem of?_itemEntry (n : Node) : of? (itemEntry n) = n.entryNodes.findSome? ownFault? := by
  -- On the size: the items below stand in lists, two levels further down.
  induction hsize : n.size using Nat.strongRecOn generalizing n with
  | _ size ih =>
    subst hsize
    have hbelow : (n.nestedItems.flatMap entryNodes).findSome? ownFault?
        = n.nestedItems.findSome? fun child => of? (itemEntry child) := by
      refine findSome?_flatMap_eq fun child hchild => ?_
      exact (ih child.size (size_lt_of_mem_nestedItems hchild) child rfl).symm
    rw [entryNodes_eq, List.findSome?_cons, hbelow, ownFault?, nestedItems]
    by_cases hitem : n.kind = .listItem
    · rw [if_pos hitem, if_pos hitem, itemEntry_eq hitem, ← of?_nestedEntries]
      cases entryOf n.children with
      | error e => rfl
      | ok entry =>
        cases nestedEntries n.children.tail <;> rfl
    · rw [if_neg hitem, itemEntry_of_ne hitem]
      rfl

theorem isEntry_iff (n : Node) :
    n.IsEntry ↔ n.kind = .listItem ∧ ∃ lead, leadOf? n.children = some lead ∧
      (lead.kind = .link ∨ ∃ value, lead.kind = .text value) := by
  constructor
  · rintro ⟨attributes, ownAttributes, lead, content, rest, rfl, hkind⟩
    exact ⟨rfl, lead, rfl, hkind⟩
  · obtain ⟨kind, attributes, children⟩ := n
    rintro ⟨hitem, lead, hlead, hkind⟩
    obtain ⟨ownAttributes, content, rest, hchildren⟩ := leadOf?_eq_some_iff.mp hlead
    dsimp only at hitem hchildren
    exact ⟨attributes, ownAttributes, lead, content, rest, by rw [hitem, hchildren], hkind⟩

theorem of?_eq_none_iff {α : Type} (x : Except SummaryError α) :
    of? x = none ↔ ∃ a, x = .ok a := by
  cases x <;> simp [of?]

/-- Nothing is wrong with an entry whose link has a page id, and with nothing else. -/
theorem ownFault?_eq_none_iff (n : Node) : ownFault? n = none ↔ n.IsEntry ∧ n.HasPageId := by
  rw [ownFault?, isEntry_iff]
  -- What is no item is at fault, and no entry.
  by_cases hitem : n.kind = .listItem
  · rw [if_pos hitem, of?_eq_none_iff]
    simp only [entryOf_eq_ok_iff]
    constructor
    · rintro ⟨own, lead, hlead, hown⟩
      cases hown with
      | placeholder hkind =>
        refine ⟨⟨hitem, lead, hlead, .inr ⟨_, hkind⟩⟩, fun other hother hlink => ?_⟩
        rw [← Option.some.inj (hlead.symm.trans hother), hkind] at hlink
        nomatch hlink
      | page hkind hid =>
        refine ⟨⟨hitem, lead, hlead, .inl hkind⟩, fun other hother _ => ?_⟩
        rw [← Option.some.inj (hlead.symm.trans hother), hid]
        rfl
    · rintro ⟨⟨-, lead, hlead, hkind⟩, hid⟩
      rcases hkind with hlink | ⟨value, htext⟩
      · obtain ⟨id, hid⟩ := Option.isSome_iff_exists.mp (hid lead hlead hlink)
        exact ⟨_, lead, hlead, .page hlink hid⟩
      · exact ⟨_, lead, hlead, .placeholder htext⟩
  · rw [if_neg hitem]
    constructor
    · intro h
      nomatch h
    · rintro ⟨⟨h, -⟩, -⟩
      exact absurd h hitem

/-- A target is at fault in an entry alone, and only if it has no page id. -/
theorem of_ownFault?_eq_badTarget {n : Node} {target : String}
    (h : ownFault? n = some (.badTarget target)) :
    n.IsEntry ∧ ¬ n.HasPageId ∧ pageId? target.toList = none := by
  have hfault := h
  unfold ownFault? at h
  split at h
  · next hitem =>
    unfold entryOf at h
    split at h
    · cases h
    · next lead hlead =>
      split at h
      · cases h
      · next hkind =>
        have hentry : n.IsEntry := (isEntry_iff n).mpr ⟨hitem, lead, hlead, .inl hkind⟩
        have hnoId : ¬ n.HasPageId := by
          intro hid
          rw [(ownFault?_eq_none_iff n).mpr ⟨hentry, hid⟩] at hfault
          cases hfault
        unfold ManifestItem.ofLink at h
        dsimp only at h
        split at h
        · cases h
        · next hnone =>
          obtain rfl := SummaryError.badTarget.inj (Option.some.inj h)
          exact ⟨hentry, hnoId, hnone⟩
      · cases h
  · cases h

end SummaryError

/-! ## Entries of items -/

namespace Node

/-- What an item gives, put together from its lead and from what stands below it. -/
theorem gives_of_parts {n lead : Node} {own : ManifestItem} {pages : Option (List ManifestItem)}
    (hitem : n.kind = .listItem) (hlead : leadOf? n.children = some lead) (hown : Leads lead own)
    (hpages : nestedEntries n.children.tail = .ok pages)
    (hbelow : ∀ child ∈ n.nestedItems, ∀ entry, itemEntry child = .ok entry → child.Gives entry) :
    n.Gives { own with pages := pages } := by
  obtain ⟨kind, attributes, children⟩ := n
  obtain ⟨ownAttributes, content, rest, hchildren⟩ := leadOf?_eq_some_iff.mp hlead
  dsimp only at hitem hchildren hpages
  subst hitem hchildren
  rw [List.tail_cons, nestedEntries_eq] at hpages
  -- Without a list below it, the item has no pages at all, rather than an empty list.
  split at hpages
  · next hnone =>
    obtain rfl := Except.ok.inj hpages
    rw [hown.without_pages]
    exact .single hown hnone
  · next hsome =>
    obtain ⟨entries, hentries, rfl⟩ := map_eq_ok_iff.mp hpages
    have hall := (mapM_eq_ok_iff _ _ _).mp hentries
    have hgives := (List.forall₂_and_left _ _).mpr ⟨hbelow, hall⟩
    exact .parent hown hsome (hgives.imp fun child entry h => h.1 entry h.2)

/-- An item that is read gives the entry that is read from it. -/
theorem gives_of_itemEntry {n : Node} {entry : ManifestItem} (h : itemEntry n = .ok entry) :
    n.Gives entry := by
  -- On the size, as for failures.
  induction hsize : n.size using Nat.strongRecOn generalizing n entry with
  | _ size ih =>
    subst hsize
    by_cases hitem : n.kind = .listItem
    · rw [itemEntry_eq hitem] at h
      obtain ⟨own, hown, h⟩ := bind_eq_ok_iff.mp h
      obtain ⟨pages, hpages, h⟩ := bind_eq_ok_iff.mp h
      obtain rfl := Except.ok.inj h
      obtain ⟨lead, hlead, hleads⟩ := (entryOf_eq_ok_iff _ _).mp hown
      refine gives_of_parts hitem hlead hleads hpages fun child hchild entry hentry => ?_
      exact ih child.size (size_lt_of_mem_nestedItems hchild) hentry rfl
    · rw [itemEntry_of_ne hitem] at h
      nomatch h

/-- An item that is a link to a target. -/
def linkItem (target title : String) : Node :=
  .ofKind .listItem [.ofKind .paragraph [.linkTo target [.ofText title]]]

end Node

end DocSite
