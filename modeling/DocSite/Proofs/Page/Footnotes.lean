/-
  DocSite.Proofs.Page.Footnotes

  The targets that footnotes bring to a page: the identifiers of their items, which
  stand beside those of the headings, and the targets of the links back from them.
  Both are made of the names of the footnotes. A numbered target of one footnote can
  be the plain target of another, and nothing but that can happen among footnotes
  with different names.
-/
import DocSite.Proofs.Page.Headings
import DocSite.Proofs.Page.Outline
import DocSite.Proofs.Text.Split

namespace DocSite

open DocSite.Html DocSite.Text

/-! ## Targets of links back -/

namespace Layout

/-- A name with a number behind it. -/
def numbered (name : String) (n : Nat) : String := name ++ "-" ++ String.ofList (decimal n)

/-- The later reference `n` of a footnote has the target of the first reference of
    the other one. -/
structure Overlaps (name : String) (n : Nat) (other : String) (m : Nat) : Prop where
  later : n ≠ 1
  first : m = 1
  name_eq : other = numbered name n

theorem backTarget_one (name : String) : backTarget name 1 = "#fnref-" ++ name := if_pos rfl

theorem backTarget_of_ne_one (name : String) {n : Nat} (h : n ≠ 1) :
    backTarget name n = "#fnref-" ++ numbered name n := by
  rw [backTarget, if_neg h, numbered, String.append_assoc, String.append_assoc,
    String.append_assoc]

/-- The number is what stands behind the last dash. -/
theorem numbered_inj {name other : String} {m n : Nat} :
    numbered name m = numbered other n ↔ name = other ∧ m = n := by
  constructor
  · intro h
    have hdash : ∀ n, '-' ∉ decimal n := fun n hmem =>
      absurd (isDigit_of_mem_decimal hmem) (by decide)
    have hlist : name.toList ++ '-' :: decimal m = other.toList ++ '-' :: decimal n := by
      have hchars := congrArg String.toList h
      simpa [numbered] using hchars
    obtain ⟨hname, hnumber⟩ := (append_mark_inj (hdash m) (hdash n)).mp hlist
    exact ⟨String.toList_inj.mp hname, decimal_injective hnumber⟩
  · rintro ⟨rfl, rfl⟩
    rfl

/-- The targets of two references are the same if the references are, or if the one
    footnote is named like a later reference of the other. -/
theorem backTarget_eq_iff {name other : String} {n m : Nat} :
    backTarget name n = backTarget other m ↔
      (name = other ∧ n = m) ∨ Overlaps name n other m ∨ Overlaps other m name n := by
  have happend : ∀ {s t : String}, "#fnref-" ++ s = "#fnref-" ++ t ↔ s = t := by
    simp
  constructor
  · intro h
    -- The first reference has no number, so that a name may end as if it had one.
    by_cases hn : n = 1 <;> by_cases hm : m = 1
    · subst hn hm
      rw [backTarget_one, backTarget_one, happend] at h
      exact .inl ⟨h, rfl⟩
    · subst hn
      rw [backTarget_one, backTarget_of_ne_one other hm, happend] at h
      exact .inr (.inr ⟨hm, rfl, h⟩)
    · subst hm
      rw [backTarget_of_ne_one name hn, backTarget_one, happend] at h
      exact .inr (.inl ⟨hn, rfl, h.symm⟩)
    · rw [backTarget_of_ne_one name hn, backTarget_of_ne_one other hm, happend] at h
      exact .inl (numbered_inj.mp h)
  · rintro (⟨rfl, rfl⟩ | ⟨hn, rfl, rfl⟩ | ⟨hm, rfl, rfl⟩)
    · rfl
    · rw [backTarget_one, backTarget_of_ne_one name hn]
    · rw [backTarget_one, backTarget_of_ne_one other hm]

end Layout

/-! ## Footnotes and their items -/

/-- The name of a footnote and the number of references to it. -/
structure Footnote where
  name : String
  references : Nat
  deriving Repr, DecidableEq

/-- The footnote that a node is. -/
def Node.footnote? (n : Node) : Option Footnote :=
  match n.kind with
  | .footnoteDefinition name references => some ⟨name, references⟩
  | _ => none

/-- The footnotes of a document, in the order of its children. -/
def Node.footnotes (document : Node) : List Footnote := document.children.filterMap footnote?

theorem Node.any_isFootnote_iff (document : Node) :
    document.children.any isFootnote = true ↔ document.footnotes ≠ [] := by
  have hsome : ∀ n : Node, n.isFootnote = true ↔ n.footnote? ≠ none := by
    rintro ⟨kind, attributes, children⟩
    cases kind <;> simp [isFootnote, footnote?]
  simp [footnotes, List.filterMap_eq_nil_iff, hsome]

namespace Html

/-- An element around lines of its own. -/
def indentedBlock (tag : String) (attributes : Attributes) (body : List Html) (indent : Nat) :
    List Html :=
  block tag attributes (newline :: (body ++ [pad indent])) indent

/-- The link back to the `n`-th reference of a footnote, as it is printed. -/
def backLink (name : String) (n : Nat) : Html :=
  .element "a" (.ofList [("href", Layout.backTarget name n), ("class", "footnote-backref")])
    [.text "↩"]

/-- The line of links back from a footnote, as it is printed. -/
def backLinks (note : Footnote) (indent : Nat) : List Html :=
  if note.references = 0 then []
  else
    pad indent
      :: ((List.range' 1 note.references).map (backLink note.name)).intersperse (.text " ")
      ++ [newline]

/-- The section of footnotes with the given items, if there are any. -/
def footnoteSection (items : List Html) : List Html :=
  if items.isEmpty then []
  else
    indentedBlock "section" (.ofList [("class", "footnotes")])
      (indentedBlock "ol" .empty (items.flatMap fun item => [pad 4, item, newline]) 2) 0

end Html

namespace Footnote

/-- The identifier of a footnote's item. -/
def id (note : Footnote) : String := "fn-" ++ note.name

/-- The item of a footnote has the identifier of the footnote, and ends with the links
    back to the references. -/
inductive IsItem (note : Footnote) : Html → Prop
  | mk {attributes : Attributes} (content : List Html) (hid : attributes.get? "id" = some note.id) :
      IsItem note (.element "li" attributes
        (newline :: (content ++ backLinks note 6 ++ [pad 4])))

/-- Footnotes with different names have items with different identifiers. -/
theorem nodup_ids {notes : List Footnote} (h : (notes.map (·.name)).Nodup) :
    (notes.map id).Nodup := by
  have hinjective : Function.Injective fun name : String => "fn-" ++ name := by
    intro name other heq
    simpa using heq
  have hids := h.map hinjective
  rwa [List.map_map] at hids

end Footnote

section Settles

variable {settings : RenderSettings} {highlighter : Highlighter} {p q : Progress}
  {html : List Html}

theorem Settles.of_indentedBlock {tag : String} {attributes : Attributes} {body : List Draft}
    {indent : Nat}
    (h : Settles settings highlighter p (Draft.indentedBlock tag attributes body indent) html q) :
    ∃ inner, Settles settings highlighter p body inner q ∧
      html = indentedBlock tag attributes inner indent := by
  cases h with
  | settled _ h =>
    cases h with
    | element _ _ hlines hend =>
      cases hlines with
      | settled _ hlines =>
        obtain ⟨inner, last, _, hinner, hlast, rfl⟩ := hlines.of_append
        cases hlast with
        | settled _ hnil =>
          cases hnil
          cases hend with
          | settled _ hnil =>
            cases hnil
            exact ⟨inner, hinner, rfl⟩

theorem Settles.of_backLink {name : String} {n : Nat}
    (h : Settles settings highlighter p [Layout.backLink name n] html q) :
    html = [backLink name n] := by
  obtain ⟨_, hlabel, rfl⟩ := h.of_element
  rw [hlabel.of_settled]
  rfl

/-- Links back hold nothing open, and neither do the blanks between them. -/
theorem Settles.of_spacedBackLinks {name : String} {numbers : List Nat}
    (h : Settles settings highlighter p
      ((numbers.map (Layout.backLink name)).intersperse (.text " ")) html q) :
    html = (numbers.map (backLink name)).intersperse (.text " ") := by
  induction numbers generalizing p html with
  | nil => cases h; rfl
  | cons n rest ih =>
    cases rest with
    | nil => exact h.of_backLink
    | cons m rest =>
      rw [List.map_cons, List.map_cons, List.intersperse_cons_cons] at h
      obtain ⟨here, later, _, hhere, hlater, rfl⟩ := Settles.of_append (a := [_]) h
      cases hlater with
      | settled _ hrest =>
        rw [hhere.of_backLink, ih hrest]
        rfl

theorem Settles.of_backLinks {note : Footnote} {indent : Nat}
    (h : Settles settings highlighter p (Layout.backLinks note.name note.references indent)
      html q) :
    html = backLinks note indent := by
  unfold Layout.backLinks at h
  unfold backLinks
  split at h
  · next hnone =>
    rw [if_pos hnone]
    cases h
    rfl
  · next hsome =>
    rw [if_neg hsome]
    cases h with
    | settled _ h =>
      obtain ⟨links, last, _, hlinks, hlast, rfl⟩ := h.of_append
      rw [hlinks.of_spacedBackLinks, hlast.of_settled]
      rfl

/-- The drafts of footnotes settle to their items, each on lines of its own. -/
theorem Settles.of_notes {baseUrl : String} {children : List Node}
    (h : Settles settings highlighter p (Layout.notes baseUrl 4 children) html q) :
    ∃ items, List.Forall₂ Footnote.IsItem (children.filterMap Node.footnote?) items ∧
      html = items.flatMap fun item => [pad 4, item, newline] := by
  induction children generalizing p html with
  | nil =>
    rw [Layout.notes] at h
    cases h
    exact ⟨[], .nil, rfl⟩
  | cons child rest ih =>
    rw [Layout.notes] at h
    obtain ⟨here, later, _, hhere, hlater, rfl⟩ := h.of_append
    obtain ⟨items, hitems, rfl⟩ := ih hlater
    obtain ⟨kind, attributes, children⟩ := child
    -- A child that is no footnote has no draft here.
    cases kind with
    | footnoteDefinition name references =>
      obtain ⟨inner, hinner, rfl⟩ := Settles.of_indentedBlock hhere
      obtain ⟨content, links, _, -, hlinks, rfl⟩ := hinner.of_append
      obtain rfl : links = backLinks ⟨name, references⟩ 6 := Settles.of_backLinks hlinks
      refine ⟨_ :: items, .cons (.mk content ?_) hitems, rfl⟩
      rw [Attributes.get?_insert, if_pos rfl]
      rfl
    | _ =>
      cases hhere
      exact ⟨items, hitems, rfl⟩

/-- A document settles to the HTML of its other children and, behind it, the section
    of its footnotes. -/
theorem Settles.of_document {baseUrl : String} {document : Node}
    (hkind : document.kind = .document)
    (h : Settles settings highlighter p (Draft.ofNode baseUrl document) html q) :
    ∃ front items, html = front ++ footnoteSection items ∧
      List.Forall₂ Footnote.IsItem document.footnotes items := by
  have hany := document.any_isFootnote_iff
  obtain ⟨kind, attributes, children⟩ := document
  subst hkind
  rw [Draft.ofNode, Layout.node] at h
  obtain ⟨front, back, _, -, hback, rfl⟩ := h.of_append
  -- There is a section exactly if some child is a footnote, and then it is not empty.
  split at hback
  · next hsome =>
    obtain ⟨_, hlist, rfl⟩ := Settles.of_indentedBlock hback
    obtain ⟨_, hnotes, rfl⟩ := Settles.of_indentedBlock hlist
    obtain ⟨items, hitems, rfl⟩ := hnotes.of_notes
    refine ⟨front, items, ?_, hitems⟩
    have hne : ¬items.isEmpty = true := by
      rintro hempty
      rw [List.isEmpty_iff.mp hempty] at hitems
      exact hany.mp hsome (List.forall₂_nil_right_iff.mp hitems)
    rw [footnoteSection, if_neg hne]
  · next hnone =>
    have hnotes := Classical.not_not.mp (mt hany.mpr hnone)
    cases hback
    exact ⟨front, [], rfl, by rw [hnotes]; exact .nil⟩

end Settles

/-! ## Headings beside footnotes -/

/-- The headings of a page have the identifiers that are given to those of its document. -/
theorem Settles.headingIds_sublist {settings : RenderSettings} {highlighter : Highlighter}
    {baseUrl : String} {document : Node} {html : List Html} {q : Progress}
    (h : Settles settings highlighter (.start .empty) (Draft.ofNode baseUrl document) html q) :
    (Html.headingIds html).Sublist (document.headingIds settings) := by
  have hspots : Draft.collectAll Draft.headingSpots (Draft.ofNode baseUrl document)
      = document.headingSpots :=
    Layout.collectAll_node Draft.readsContent_headingSpots baseUrl document 0
  have hsound := Layout.sound_node baseUrl (Admission.throughout_anything document) 0
  rw [Node.headingIds, ← hspots]
  exact (h.headingIds hsound).2.1

/-- The identifier is the one that a heading asks for, or has a number behind it that
    is due: earlier headings have the identifier that is asked for and those with smaller
    numbers. -/
def HeadingSpot.Reaches (earlier : List (Option String)) (spot : HeadingSpot) (id : String) :
    Prop :=
  ∃ n, id = String.ofList (HeadingIds.candidate (HeadingIds.base spot.rawText.toList) n) ∧
    ∀ k < n, some (String.ofList
      (HeadingIds.candidate (HeadingIds.base spot.rawText.toList) k)) ∈ earlier

section Headings

variable {settings : RenderSettings} (hauto : settings.autoIds = true)

include hauto

/-- Headings without identifiers of their author have those that are generated for
    their texts. -/
theorem Progress.visitAll_unnamed {spots : List HeadingSpot}
    (hunnamed : ∀ spot ∈ spots, spot.ownId? = none) (p : Progress) :
    (visitAll settings spots p).1 =
      (p.ids.generateAll (spots.map fun spot => spot.rawText.toList)).1.map
        fun id => some (String.ofList id) := by
  induction spots generalizing p with
  | nil => rfl
  | cons spot rest ih =>
    obtain ⟨hspot, hrest⟩ := List.forall_mem_cons.mp hunnamed
    have hidentify := identify_of_none settings hspot p
    rw [if_pos hauto] at hidentify
    have hhere : (p.visit settings spot).1 = (p.identify settings spot).1 := rfl
    rw [visitAll, hhere, ih hrest, visit_ids, hidentify]
    rfl

theorem Node.headingIds_append_cons {document : Node}
    (hunnamed : ∀ spot ∈ document.headingSpots, spot.ownId? = none)
    {before after : List HeadingSpot} {spot : HeadingSpot}
    (hspots : document.headingSpots = before ++ spot :: after) :
    ∃ earlier id later, document.headingIds settings = earlier ++ some id :: later ∧
      earlier.length = before.length ∧ spot.Reaches earlier id := by
  obtain ⟨n, later, hids, hbelow⟩ := HeadingIds.generateAll_append_cons
    (before.map fun spot => spot.rawText.toList) spot.rawText.toList
    (after.map fun spot => spot.rawText.toList)
  have hstart : (Progress.start .empty).ids = .empty := rfl
  rw [headingIds, Progress.visitAll_unnamed hauto hunnamed, hspots, List.map_append, List.map_cons,
    hstart, hids, List.map_append, List.map_cons]
  refine ⟨_, _, _, rfl, ?_, n, rfl, fun k hk => ?_⟩
  · rw [List.length_map, HeadingIds.length_generateAll, List.length_map]
  · exact List.mem_map_of_mem (hbelow k hk)

end Headings

/-! ## Targets of a page -/

/-- What is known of the targets that the footnotes of a document bring to its page. -/
structure TargetsApart (settings : RenderSettings) (document : Node) : Prop where
  /-- No two items have one identifier. -/
  items : (document.footnotes.map Footnote.id).Nodup
  /-- A heading has the identifier of no item, unless its text leads there. -/
  headings : ∀ before spot after, document.headingSpots = before ++ spot :: after →
    ∃ earlier id later, document.headingIds settings = earlier ++ some id :: later ∧
      earlier.length = before.length ∧
      ∀ note ∈ document.footnotes, ¬spot.Reaches earlier note.id → id ≠ note.id
  /-- Two references have one target only if the one footnote is named like a later
      reference of the other. -/
  references : ∀ note ∈ document.footnotes, ∀ other ∈ document.footnotes,
    ∀ n ∈ List.range' 1 note.references, ∀ m ∈ List.range' 1 other.references,
      (Layout.backTarget note.name n = Layout.backTarget other.name m ↔
        (note = other ∧ n = m) ∨ Layout.Overlaps note.name n other.name m ∨
          Layout.Overlaps other.name m note.name n)

/-- The targets of footnotes with different names are kept apart whenever headings have
    no identifiers of their author. -/
theorem Node.targetsApart {settings : RenderSettings} (hauto : settings.autoIds = true)
    {document : Node} (hunnamed : ∀ spot ∈ document.headingSpots, spot.ownId? = none)
    (hnames : (document.footnotes.map (·.name)).Nodup) : TargetsApart settings document where
  items := Footnote.nodup_ids hnames
  headings before spot after hspots := by
    obtain ⟨earlier, id, later, hids, hlength, hreaches⟩ :=
      Node.headingIds_append_cons hauto hunnamed hspots
    refine ⟨earlier, id, later, hids, hlength, fun note _ hnot => ?_⟩
    rintro rfl
    exact hnot hreaches
  references note hnote other hother n _ m _ := by
    have hname : note.name = other.name ↔ note = other :=
      ⟨List.inj_on_of_nodup_map hnames hnote hother, congrArg _⟩
    rw [Layout.backTarget_eq_iff, hname]

/-- **Footnotes with different names have targets of their own**, but for headings whose
    texts lead to an item and for names that are those of later references. The items
    stand behind the page in one section, each with its identifier and its links back. -/
theorem Renderer.footnoteTargets_apart {r : Renderer} {document : Node} {page : Page}
    (hauto : r.settings.autoIds = true)
    (hunnamed : ∀ spot ∈ document.headingSpots, spot.ownId? = none)
    (hnames : (document.footnotes.map (·.name)).Nodup)
    (hpage : r.render document = .ok page) :
    (∃ html, page.html = printAll html ∧
      (headingIds html).Sublist (document.headingIds r.settings) ∧
      (document.kind = .document → ∃ front items,
        html = front ++ footnoteSection items ∧
        List.Forall₂ Footnote.IsItem document.footnotes items)) ∧
    TargetsApart r.settings document := by
  refine ⟨?_, Node.targetsApart hauto hunnamed hnames⟩
  obtain ⟨html, progress, hsettles, rfl, -⟩ := settles_of_renderWithIds hpage
  exact ⟨html, rfl, hsettles.headingIds_sublist, fun hkind => hsettles.of_document hkind⟩

/-- A heading and two footnotes, of which the first has two references. -/
def Node.twoNotes (heading first second : String) : Node :=
  .ofKind .document
    [.heading 2 [.ofText heading], .ofKind (.footnoteDefinition first 2) [],
      .ofKind (.footnoteDefinition second 1) []]

theorem Renderer.footnoteTargets_apart_notes :
    ∃ page front items,
      (Renderer.mk {} .plain).render (.twoNotes "Notes" "a" "b") = .ok page ∧
      page.html = printAll (front ++ footnoteSection items) ∧ items.length = 2 ∧
      TargetsApart {} (.twoNotes "Notes" "a" "b") := by
  have hok : ((Renderer.mk {} .plain).render (.twoNotes "Notes" "a" "b")).isOk := by
    decide +kernel
  obtain ⟨page, hpage⟩ := isOk_iff.mp hok
  obtain ⟨⟨_, hhtml, -, hsection⟩, hapart⟩ :=
    footnoteTargets_apart (r := ⟨{}, .plain⟩) rfl (by decide +kernel) (by decide) hpage
  obtain ⟨front, items, rfl, hitems⟩ := hsection rfl
  exact ⟨page, front, items, hpage, hhtml, hitems.length_eq.symm, hapart⟩

/-- A heading can have the identifier of a footnote's item, and references of footnotes
    with different names can have one target. -/
theorem Renderer.footnoteTargets_not_apart :
    (∀ spot ∈ (Node.twoNotes "Fn a" "a" "a-2").headingSpots, spot.ownId? = none) ∧
      ((Node.twoNotes "Fn a" "a" "a-2").footnotes.map (·.name)).Nodup ∧
      (∃ note ∈ (Node.twoNotes "Fn a" "a" "a-2").footnotes,
        some note.id ∈ (Node.twoNotes "Fn a" "a" "a-2").headingIds {}) ∧
      (∃ note ∈ (Node.twoNotes "Fn a" "a" "a-2").footnotes,
        ∃ other ∈ (Node.twoNotes "Fn a" "a" "a-2").footnotes, note ≠ other ∧
          ∃ n ∈ List.range' 1 note.references, ∃ m ∈ List.range' 1 other.references,
            Layout.backTarget note.name n = Layout.backTarget other.name m) ∧
      ((Renderer.mk {} .plain).render (.twoNotes "Fn a" "a" "a-2")).toOption.map (·.html) = some
        ("<a name=\"fn-a\" class=\"elem-anchor\"></a>\n" ++
          "<h2 id=\"fn-a\">Fn a<a href=\"#fn-a\" class=\"anchor-link\"></a></h2>\n" ++
          "<section class=\"footnotes\">\n  <ol>\n    <li id=\"fn-a\">\n      " ++
          "<a href=\"#fnref-a\" class=\"footnote-backref\">↩</a> " ++
          "<a href=\"#fnref-a-2\" class=\"footnote-backref\">↩</a>\n    </li>\n    " ++
          "<li id=\"fn-a-2\">\n      <a href=\"#fnref-a-2\" class=\"footnote-backref\">↩</a>\n" ++
          "    </li>\n  </ol>\n</section>\n") := by
  refine ⟨?_, ?_, ?_, ?_, ?_⟩ <;> decide +kernel

end DocSite
