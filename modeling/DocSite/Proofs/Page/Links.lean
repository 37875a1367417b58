/-
  DocSite.Proofs.Page.Links

  The links of a page. Each link of a document that is visited stands on its page as one
  tag, with the attributes of its author and the target as the page leads to it, in
  whatever element the link stands; and no anchor, permalink or link back from a
  footnote is taken for one.
-/
import DocSite.Proofs.Except
import DocSite.Proofs.Html.LinkTags
import DocSite.Proofs.Page.Composition
import DocSite.Proofs.Page.LinkElement
import DocSite.Proofs.Page.WellFormed

namespace DocSite

open DocSite.Html DocSite.Markup

theorem plainKeys_linkAttributes {attributes : Attributes} (h : PlainKeys attributes)
    (baseUrl : String) : PlainKeys (linkAttributes baseUrl attributes) := by
  have hhref : ∀ value, PlainKeys (attributes.insert "href" value) :=
    plainKeys_insert h (by decide)
  unfold linkAttributes
  dsimp only
  split
  · exact plainKeys_insert (hhref _) (by decide) _
  · exact hhref _

/-! ## Plain documents -/

/-- Whether a node of a kind brings markup of its author's own, or an anchor. -/
def NodeKind.bringsMarkup : NodeKind → Bool
  | .htmlBlock _ | .htmlInline _ | .entity _ | .anchor => true
  | _ => false

/-- A node that brings no markup but that of the layout. -/
structure Node.IsPlain (n : Node) : Prop where
  kind : n.kind.bringsMarkup = false
  keys : PlainKeys n.attributes
  mail : n.kind = .link → ∀ address ∈ Admission.mailAddress? n.attributes, '<' ∉ address.toList

instance (n : Node) : Decidable n.IsPlain :=
  decidable_of_iff (n.kind.bringsMarkup = false ∧ PlainKeys n.attributes ∧
      (n.kind = .link → ∀ address ∈ Admission.mailAddress? n.attributes, '<' ∉ address.toList))
    ⟨fun h => ⟨h.1, h.2.1, h.2.2⟩, fun h => ⟨h.kind, h.keys, h.mail⟩⟩

/-- If the nodes of a document are plain, so are those that are visited. -/
theorem Node.isPlain_of_mem_visited {document : Node} (h : ∀ n ∈ document.subtree, n.IsPlain) :
    ∀ n ∈ document.visited, n.IsPlain := by
  have hthroughout : document.Throughout fun kind attributes =>
      (⟨kind, attributes, []⟩ : Node).IsPlain := fun n hn => ⟨(h n hn).1, (h n hn).2, (h n hn).3⟩
  intro n hn
  have hplain := hthroughout.of_mem_visited
    (fun _ _ _ htext => ⟨rfl, htext.keys, nofun⟩) hn
  exact ⟨hplain.kind, hplain.keys, hplain.mail⟩

/-! ## Pages -/

section Pages

variable {settings : RenderSettings} {highlighter : Highlighter}

/-- No link stands in escaped text. -/
theorem holdsLinks_text (s : String) : HoldsLinks (printAll [.text s]).toList [] := by
  rw [printAll, print, printAll, String.append_empty, String.toList_ofList]
  exact .of_not_mem (not_mem_escapeText (.inl rfl) s.toList)

/-- No link stands in code that is only escaped. -/
theorem holdsLinks_plainHighlight (mode : HighlightMode) (lines : LineSelection)
    (code : List Char) : HoldsLinks (plainHighlight mode lines code) [] := by
  have hline : ∀ line, HoldsLinks (escapeText line) [] := fun line =>
    .of_not_mem (not_mem_escapeText (.inl rfl) line)
  apply plainHighlight_induction (Q := fun markup => HoldsLinks markup [])
  · exact .nil
  · exact fun ha hb => ha.append hb
  · exact hline
  · intro line
    have hbody : HoldsLinks (String.ofList (escapeText line)).toList [] := by
      rw [String.toList_ofList]
      exact hline line
    have hmark : HoldsLinks (openTag "span" (.ofList [("class", "hll")])
        ++ String.ofList (escapeText line) ++ closeTag "span").toList [] :=
      .element (by decide) (by decide) (by decide) hbody
    rw [markLine_eq]
    rwa [String.toList_append, String.toList_append, String.toList_ofList] at hmark

/-- An element holds the same links on a line of its own. -/
theorem holdsLinks_block {tag : String} {attributes : Attributes} {body : List Html}
    {tags : List (List Char)} (h : HoldsLinks (printAll [.element tag attributes body]).toList tags)
    (indent : Nat) : HoldsLinks (printAll (Html.block tag attributes body indent)).toList tags := by
  have hpad := holdsLinks_text (String.ofList (List.replicate indent ' '))
  have hlines := (hpad.append h).append (holdsLinks_text "\n")
  rwa [List.nil_append, List.append_nil, ← String.toList_append, ← String.toList_append,
    ← printAll_append, ← printAll_append] at hlines

/-- The element of a heading is no link. -/
theorem holdsLinks_headingBlock (level : Nat) {attributes : Attributes} {body : List Html}
    {tags : List (List Char)} (hkeys : PlainKeys attributes)
    (hbody : HoldsLinks (printAll body).toList tags) (indent : Nat) :
    HoldsLinks (printAll
      (Html.block ("h" ++ String.ofList (Text.decimal level)) attributes body indent)).toList
      tags := by
  have hne : "h" ++ String.ofList (Text.decimal level) ≠ "a" := by
    intro heq
    have hchars := congrArg String.toList heq
    rw [String.toList_append] at hchars
    exact absurd (List.cons.inj hchars).1 (by decide)
  apply holdsLinks_block
  rw [printAll_element]
  exact .element (isElementName_heading level) hkeys hne hbody

/-- The anchor before a heading and the permalink in it are no links. -/
theorem holdsLinks_headingAnchor {key : String} (hkey : key ∈ layoutKeys) (value cls : String) :
    HoldsLinks (printAll
      [.element "a" (.ofList [(key, value), ("class", cls)]) []]).toList [] := by
  rw [printAll_element]
  exact .anchor (plainKeys_pair hkey value cls) List.not_mem_nil

/-- A heading holds the links in its content, whatever its identifier is. -/
theorem holdsLinks_headingHtml {spot : HeadingSpot} (hkeys : PlainKeys spot.attributes)
    (id : Option String) {body : List Html} {tags : List (List Char)}
    (hbody : HoldsLinks (printAll body).toList tags) :
    HoldsLinks (printAll (headingHtml settings spot id body)).toList tags := by
  cases id with
  | none => exact holdsLinks_headingBlock _ hkeys hbody _
  | some id =>
    have hanchor : HoldsLinks (printAll (Html.block "a"
        (.ofList [("name", id), ("class", "elem-anchor")]) [] spot.indent)).toList [] :=
      holdsLinks_block (holdsLinks_headingAnchor (by decide) id "elem-anchor") _
    have hpermalink : HoldsLinks (printAll
        (if settings.outputLevel spot.level ≤ settings.maxAnchoredLevel then
          [Html.element "a" (.ofList [("href", "#" ++ id), ("class", "anchor-link")]) []]
        else [])).toList [] := by
      split
      · exact holdsLinks_headingAnchor (by decide) _ _
      · exact .nil
    have hinner := hbody.append hpermalink
    rw [List.append_nil, ← String.toList_append, ← printAll_append] at hinner
    have hid : PlainKeys (spot.attributes.insert "id" id) :=
      plainKeys_insert hkeys (by decide) id
    have hheading :=
      holdsLinks_headingBlock (settings.outputLevel spot.level) hid hinner spot.indent
    have hpage := hanchor.append hheading
    rw [List.nil_append] at hpage
    rwa [headingHtml, printAll_append, String.toList_append]

/-- An element without content is no link. -/
theorem holdsLinks_void {tag : String} {attributes : Attributes} (htag : tag ∈ emptyTags)
    (hkeys : PlainKeys attributes) : HoldsLinks (printAll [.void tag attributes]).toList [] := by
  have hname : ∀ tag ∈ emptyTags, IsElementName tag.toList ∧ tag.toList.head? ≠ some 'a' := by
    decide
  rw [printAll, print, printAll, String.append_empty]
  refine .void (hname tag htag).1 hkeys fun inside heq => ?_
  exact (hname tag htag).2 (by rw [heq]; rfl)

/-- A leaf that is plain is no link. -/
theorem holdsLinks_opening {n : Node} {html : Html} (hplain : n.IsPlain)
    (hopening : n.opening = [.settled html]) : HoldsLinks (printAll [html]).toList [] := by
  have hmarkup := hplain.kind
  unfold Node.opening at hopening
  cases hkind : n.kind with
  | text value =>
    rw [hkind] at hopening
    cases hopening
    exact holdsLinks_text value
  | image =>
    rw [hkind] at hopening
    cases hopening
    exact holdsLinks_void (by decide) hplain.keys
  | thematicBreak =>
    rw [hkind] at hopening
    cases hopening
    exact holdsLinks_void (by decide) hplain.keys
  | lineBreak =>
    rw [hkind] at hopening
    cases hopening
    exact holdsLinks_void (by decide) (by decide)
  | entity name | htmlBlock html | htmlInline html =>
    rw [hkind] at hmarkup
    cases hmarkup
  | _ =>
    rw [hkind] at hopening
    cases hopening

/-- The links of the nodes of which a draft is composed stand in what it settles to. -/
theorem Layout.Composed.holdsLinks {baseUrl : String} {draft : List Draft} {v : List Node}
    (h : Composed baseUrl draft v) (hbackend : highlighter.backend = .plain)
    (hplain : ∀ n ∈ v, n.IsPlain) {p q : Progress} {html : List Html}
    (hsettles : Settles settings highlighter p draft html q) :
    HoldsLinks (printAll html).toList
      ((v.filter fun n => n.kind = .link).map fun n =>
        (printEntries (linkAttributes baseUrl n.attributes).entries).toList) := by
  -- A node that is no link adds no tag to those of the nodes behind it.
  have hother : ∀ {n : Node} (v : List Node), n.kind ≠ .link →
      (n :: v).filter (fun n => n.kind = .link) = v.filter fun n => n.kind = .link :=
    fun v hkind => List.filter_cons_of_neg (by simpa using hkind)
  have hkeysFrom : ∀ {own attributes : Attributes}, KeysFrom own attributes → PlainKeys own →
      PlainKeys attributes := fun hfrom hown =>
    hfrom (.wellFormed (fun _ => True) fun _ => True) hown
  induction h generalizing p q html with
  | nil =>
    cases hsettles
    exact .nil
  | append hb hc ihb ihc =>
    obtain ⟨hplainb, hplainc⟩ := List.forall_mem_append.mp hplain
    obtain ⟨here, later, _, hhere, hlater, rfl⟩ := hsettles.of_append
    rw [List.filter_append, List.map_append, printAll_append, String.toList_append]
    exact (ihb hplainb hhere).append (ihc hplainc hlater)
  | @space piece hspace =>
    obtain ⟨s, rfl⟩ := Draft.exists_of_isSpace hspace
    rw [hsettles.of_settled]
    exact holdsLinks_text s
  | @frame tag attributes body v htag hne hkeys hbody ih =>
    obtain ⟨inner, hinner, rfl⟩ := hsettles.of_element
    rw [printAll_element]
    exact .element (isElementName_layoutTag tag htag) (hkeysFrom hkeys (by decide)) hne
      (ih hplain hinner)
  | backLink name reference =>
    obtain ⟨inner, hinner, rfl⟩ := hsettles.of_element
    rw [hinner.of_settled, printAll_element]
    exact .anchor (plainKeys_pair (by decide) _ _) (by decide)
  | @bare n body v hframe hbody ih =>
    obtain ⟨-, hplain⟩ := List.forall_mem_cons.mp hplain
    rw [hother v (Node.ne_link_of_isFrame hframe)]
    exact ih hplain hsettles
  | @element n tag attributes body v hframe htag hne hkeys hbody ih =>
    obtain ⟨hown, hplain⟩ := List.forall_mem_cons.mp hplain
    obtain ⟨inner, hinner, rfl⟩ := hsettles.of_element
    rw [hother v (Node.ne_link_of_isFrame hframe), printAll_element]
    exact .element (isElementName_layoutTag tag htag) (hkeysFrom hkeys hown.keys) hne
      (ih hplain hinner)
  | @leaf n html hopening =>
    obtain ⟨hown, -⟩ := List.forall_mem_cons.mp hplain
    rw [hother [] (Node.ne_link_of_opening hopening), hsettles.of_settled]
    exact holdsLinks_opening hown hopening
  | @code n attributes spot hspot hkeys =>
    obtain ⟨hown, -⟩ := List.forall_mem_cons.mp hplain
    obtain ⟨inner, hinner, rfl⟩ := hsettles.of_element
    obtain ⟨output, houtput, rfl⟩ := hinner.of_code
    obtain ⟨lines, rfl⟩ := CodeSpot.highlight_plain hbackend houtput
    have hcode : HoldsLinks (printAll [.raw (String.ofList
        (plainHighlight spot.mode lines spot.code.toList))]).toList [] := by
      rw [printAll, print, printAll, String.append_empty, String.toList_ofList]
      exact holdsLinks_plainHighlight _ _ _
    rw [hother [] (Node.ne_link_of_codeSpot? hspot), printAll_element]
    exact .element (by decide) (hkeysFrom hkeys hown.keys) (by decide) hcode
  | @heading n level indent rawText body v hkind hbody ih =>
    obtain ⟨hown, hplain⟩ := List.forall_mem_cons.mp hplain
    obtain ⟨inner, hinner, rfl⟩ := hsettles.of_heading
    rw [hother v (by simp [hkind])]
    exact holdsLinks_headingHtml hown.keys _ (ih hplain hinner)
  | @anchor n body v hkind hbody ih =>
    obtain ⟨hown, -⟩ := List.forall_mem_cons.mp hplain
    have hmarkup := hown.kind
    rw [hkind] at hmarkup
    cases hmarkup
  | @link n indent hkind hbody ih =>
    obtain ⟨hown, hplain⟩ := List.forall_mem_cons.mp hplain
    obtain ⟨label, hlabel, rfl⟩ := hsettles.of_link
    have hlinks := ih hplain hlabel
    rw [List.filter_cons_of_pos (by simpa using hkind), List.map_cons, printAll_element,
      printAll_element]
    refine .link (plainKeys_linkAttributes hown.keys baseUrl) ?_
    unfold shownLabel
    split
    · next haddress =>
      -- Where there is a link there is a tag, of which the address has none.
      have hnone := HoldsLinks.of_not_mem (hown.mail hkind _ haddress)
      rw [hlinks.eq hnone, printAll, print, printAll, String.append_empty, String.toList_ofList]
      exact .of_not_mem (not_mem_obfuscate (.inl rfl) _)
    · exact hlinks

end Pages

/-- **Links are rewritten wherever they occur.** On a page that is printed without markup
    of an author's own, the tags of links are those of the links of the document that
    are visited, in order, one for each. A link has the attributes of its author in
    their order, with the target as the page leads to it, and `data-bypass` if the
    target is outside the site. -/
theorem Renderer.linkTags_html (r : Renderer) (document : Node) (ids : HeadingIds) (page : Page)
    (hbackend : r.highlighter.backend = .plain) (hplain : ∀ n ∈ document.subtree, n.IsPlain)
    (hpage : (r.renderWithIds document ids).1 = .ok page) :
    linkTags page.html.toList
      = (document.visited.filter fun n => n.kind = .link).map (fun n =>
          (printEntries (linkAttributes r.settings.baseUrl n.attributes).entries).toList) ∧
    ∀ attributes : Attributes,
      let target := Link.onPage ((attributes.get? "href").getD "") r.settings.baseUrl
      let shown := linkAttributes r.settings.baseUrl attributes
      shown.get? "href" = some target.href ∧
      (target.external = true → shown.get? "data-bypass" = some "yes") ∧
      (∀ key, key ≠ "href" → (key = "data-bypass" → target.external = false) →
        shown.get? key = attributes.get? key) ∧
      attributes.entries.map Prod.fst <+: shown.entries.map Prod.fst := by
  constructor
  · obtain ⟨html, progress, hsettles, rfl, -⟩ := settles_of_renderWithIds hpage
    have hcomposed := Layout.Composed.node r.settings.baseUrl document 0
    exact (hcomposed.holdsLinks hbackend (Node.isPlain_of_mem_visited hplain) hsettles).linkTags_eq
  · intro attributes target shown
    -- What any key is set to; the properties of the tag are cases of it.
    have hget : ∀ key, shown.get? key
        = if key = "data-bypass" ∧ target.external = true then some "yes"
          else if key = "href" then some target.href else attributes.get? key :=
      get?_linkAttributes r.settings.baseUrl attributes
    refine ⟨?_, ?_, ?_, keys_prefix_linkAttributes r.settings.baseUrl attributes⟩
    · rw [hget, if_neg (fun h => absurd h.1 (by decide)), if_pos rfl]
    · intro hexternal
      rw [hget, if_pos ⟨rfl, hexternal⟩]
    · intro key hhref hbypass
      rw [hget, if_neg, if_neg hhref]
      rintro ⟨hkey, hexternal⟩
      rw [hbypass hkey] at hexternal
      cases hexternal

/-- A document with links in a heading, in the label of another link, in an admonition
    and in a footnote. -/
def Node.scatteredLinks : Node :=
  .ofKind .document
    [.ofKind (.footnoteDefinition "n" 1)
        [.ofKind .paragraph [⟨.link, .ofList [("href", "d.md")], [.ofText "d"]⟩]],
      .heading 1 [⟨.link, .ofList [("title", "t"), ("href", "/a.md")], [.ofText "a"]⟩],
      .ofKind .paragraph
        [⟨.link, .ofList [("href", "https://b.org")],
          [⟨.link, .ofList [("href", "mailto:c@d.e")], [.ofText "c@d.e"]⟩]⟩],
      .ofKind .blockquote
        [.ofKind .paragraph [.ofKind .strong [⟨.link, .empty, [.ofText "Note"]⟩], .ofText " x",
          ⟨.link, .empty, []⟩]]]

theorem Renderer.linkTags_html_scatteredLinks :
    (∀ n ∈ Node.scatteredLinks.subtree, n.IsPlain) ∧
      ∃ page, ((Renderer.mk {} .plain).renderWithIds .scatteredLinks .empty).1 = .ok page ∧
        linkTags page.html.toList
          = [" title=\"t\" href=\"/a.html\"", " href=\"https://b.org\" data-bypass=\"yes\"",
              " href=\"" ++ String.ofList (Link.mailHref "c@d.e".toList) ++ "\"",
              " href=\"\"", " href=\"d.html\""].map String.toList := by
  have hplain : ∀ n ∈ Node.scatteredLinks.subtree, n.IsPlain := by decide +kernel
  have htags : (Node.scatteredLinks.visited.filter fun n => n.kind = .link).map (fun n =>
        (printEntries (linkAttributes "/" n.attributes).entries).toList)
      = [" title=\"t\" href=\"/a.html\"", " href=\"https://b.org\" data-bypass=\"yes\"",
          " href=\"" ++ String.ofList (Link.mailHref "c@d.e".toList) ++ "\"",
          " href=\"\"", " href=\"d.html\""].map String.toList := by
    decide +kernel
  have hok : ((Renderer.mk {} .plain).renderWithIds .scatteredLinks .empty).1.isOk := by
    decide +kernel
  obtain ⟨page, hpage⟩ := isOk_iff.mp hok
  refine ⟨hplain, page, hpage, ?_⟩
  rw [← htags]
  exact (linkTags_html ⟨{}, .plain⟩ .scatteredLinks .empty page rfl hplain hpage).1

end DocSite
