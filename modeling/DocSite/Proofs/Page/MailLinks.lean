/-
  DocSite.Proofs.Page.MailLinks

  Links that show the mail address to which they lead. The target of such a link is
  hidden from harvesters for every address. The label is hidden only if escaping
  leaves the address as it is, since the label is compared with the address after it
  has been escaped: an address with `&`, `<` or `>` stands on the page in plain text.
-/
import DocSite.Proofs.Document.Attributes
import DocSite.Proofs.Except
import DocSite.Proofs.Html.Template
import DocSite.Proofs.Link
import DocSite.Proofs.Page.Composition
import DocSite.Proofs.Page.LinkElement

namespace DocSite

open DocSite.Text DocSite.Html

/-! ## Links to mail addresses -/

/-- A link to a mail address that shows the address. -/
structure MailLink where
  /-- The attributes as their author set them. -/
  attributes : Attributes
  address : String

namespace MailLink

/-- The target on a page. -/
def href (link : MailLink) : String := String.ofList (Link.mailHref link.address.toList)

/-- The label on a page. -/
def label (link : MailLink) : String :=
  if escapeText link.address.toList = link.address.toList then
    String.ofList (obfuscate link.address.toList)
  else String.ofList (escapeText link.address.toList)

/-- The tag that opens the link. -/
def tag (link : MailLink) : String := openTag "a" (link.attributes.insert "href" link.href)

/-- The link on a page. -/
def markup (link : MailLink) : String :=
  link.tag ++ openTag "span" .empty ++ link.label ++ closeTag "span" ++ closeTag "a"

end MailLink

/-- The link that a node is, if it is one to a mail address and shows the address. -/
def Node.mailLink? (n : Node) : Option MailLink :=
  match n.kind, n.children with
  | .link, [child] =>
    match Admission.mailAddress? n.attributes, child.kind with
    | some address, .text shown => if shown = address then some ⟨n.attributes, address⟩ else none
    | _, _ => none
  | _, _ => none

/-- The links of a document to mail addresses that show the addresses. -/
def Node.mailLinks (document : Node) : List MailLink :=
  document.visited.filterMap Node.mailLink?

/-- A label that may be replaced by its address, which has a tag in it, holds no link that
    shows its address. -/
def Node.KeepsLinks (n : Node) : Prop :=
  n.kind = .link → ∀ address, Admission.mailAddress? n.attributes = some address →
    '<' ∈ address.toList → (n.children.flatMap Node.visited).filterMap Node.mailLink? = []

namespace Node

theorem mailAddress?_eq_some_iff {attributes : Attributes} {address : String} :
    Admission.mailAddress? attributes = some address
      ↔ attributes.get? "href" = some ("mailto:" ++ address) := by
  rw [Admission.mailAddress?, Option.map_eq_some_iff, dropPrefix?]
  constructor
  · rintro ⟨rest, hrest, rfl⟩
    have htarget := List.isPrefixOf?_eq_some_iff_append_eq.mp hrest
    cases hhref : attributes.get? "href" with
    | none =>
      -- A missing target is read as the empty one, which has no scheme.
      rw [hhref] at htarget
      cases htarget
    | some target =>
      rw [hhref, Option.getD_some] at htarget
      have htoList : target.toList = ("mailto:" ++ String.ofList rest).toList := by
        simp only [← htarget, String.toList_append, String.toList_ofList]
      rw [String.toList_inj.mp htoList]
  · intro hhref
    refine ⟨address.toList, ?_, String.ofList_toList⟩
    rw [List.isPrefixOf?_eq_some_iff_append_eq, hhref, Option.getD_some, String.toList_append]

/-- Which nodes are such links. -/
theorem mailLink?_eq_some_iff {n : Node} {link : MailLink} :
    n.mailLink? = some link ↔
      n.kind = .link ∧ n.attributes = link.attributes ∧
      n.attribute? "href" = some ("mailto:" ++ link.address) ∧
      ∃ child, n.children = [child] ∧ child.kind = .text link.address := by
  rw [attribute?, ← mailAddress?_eq_some_iff]
  constructor
  · intro h
    unfold mailLink? at h
    split at h
    · next child hkind hchildren =>
      split at h
      · next address shown haddress htext =>
        split at h
        · next heq =>
          obtain rfl := Option.some.inj h
          subst heq
          exact ⟨hkind, rfl, haddress, child, hchildren, htext⟩
        · cases h
      · cases h
    · cases h
  · rintro ⟨hkind, hattributes, haddress, child, hchildren, htext⟩
    unfold mailLink?
    rw [hkind, hchildren, haddress]
    dsimp only
    rw [htext]
    dsimp only
    rw [if_pos rfl, hattributes]

theorem mailLink?_eq_none {n : Node} (h : n.kind ≠ .link) : n.mailLink? = none := by
  rw [Option.eq_none_iff_forall_ne_some]
  intro link hlink
  exact h (mailLink?_eq_some_iff.mp hlink).1

end Node

/-! ## Pages -/

/-- Links stand in a text, one after the other. -/
def HoldsMailLinks (links : List MailLink) (s : String) : Prop :=
  ∃ t : Template MailLink, t.slots = links ∧ t.fill MailLink.markup = s

namespace HoldsMailLinks

variable {links more : List MailLink} {s t : String}

theorem nil (s : String) : HoldsMailLinks [] s :=
  ⟨[.fixed s], rfl, String.append_empty⟩

theorem append (hs : HoldsMailLinks links s) (ht : HoldsMailLinks more t) :
    HoldsMailLinks (links ++ more) (s ++ t) := by
  obtain ⟨u, rfl, rfl⟩ := hs
  obtain ⟨v, rfl, rfl⟩ := ht
  exact ⟨u ++ v, Template.slots_append u v, Template.fill_append _ u v⟩

/-- Links stand in an element as they stand in its content. -/
theorem wrap (hs : HoldsMailLinks links s) (before after : String) :
    HoldsMailLinks links (before ++ s ++ after) := by
  have hwrapped := ((nil before).append hs).append (nil after)
  rwa [List.nil_append, List.append_nil] at hwrapped

theorem singleton (link : MailLink) : HoldsMailLinks [link] link.markup :=
  ⟨[.slot link], rfl, String.append_empty⟩

/-- Where a link stands there is a tag. -/
theorem eq_nil (hs : HoldsMailLinks links s) (hplain : '<' ∉ s.toList) : links = [] := by
  obtain ⟨t, rfl, rfl⟩ := hs
  rw [List.eq_nil_iff_forall_not_mem]
  intro link hlink
  have hpart := Template.infix_fill MailLink.markup hlink
  have htag : '<' ∈ link.markup.toList := by
    simp [MailLink.markup, MailLink.tag, openTag]
  exact hplain (hpart.subset htag)

end HoldsMailLinks

section Pages

variable {settings : RenderSettings} {highlighter : Highlighter}

/-- The label of a link holds the links in it, unless it is replaced as a whole. -/
theorem HoldsMailLinks.shownLabel {attributes : Attributes} {label : List Html}
    {links : List MailLink} (h : HoldsMailLinks links (printAll label))
    (hkeeps : ∀ address, Admission.mailAddress? attributes = some address →
      '<' ∈ address.toList → links = []) :
    HoldsMailLinks links (printAll (shownLabel attributes label)) := by
  unfold DocSite.shownLabel
  split
  · next haddress =>
    have hnil : links = [] := by
      by_cases htag : '<' ∈ (printAll label).toList
      · exact hkeeps _ haddress htag
      · exact h.eq_nil htag
    rw [hnil]
    exact .nil _
  · exact h

/-- A link to a mail address that shows the address. -/
theorem Settles.printAll_mailLink {p q : Progress} {baseUrl : String} {indent : Nat} {n : Node}
    {html : List Html} {link : MailLink} (hlink : n.mailLink? = some link)
    (h : Settles settings highlighter p
      [Layout.link baseUrl n.attributes (n.children.flatMap (Layout.node baseUrl indent))] html q) :
    printAll html = link.markup := by
  obtain ⟨-, hattributes, hhref, child, hchildren, htext⟩ := Node.mailLink?_eq_some_iff.mp hlink
  rw [Node.attribute?, hattributes] at hhref
  have hnode : Layout.node baseUrl indent child = [.text link.address] := by
    obtain ⟨kind, attributes, children⟩ := child
    obtain rfl : kind = .text link.address := htext
    rfl
  have htarget : linkAttributes baseUrl link.attributes
      = link.attributes.insert "href" link.href := by
    rw [linkAttributes, hhref, Option.getD_some, Link.onPage_mail]
    rfl
  rw [hchildren, List.flatMap_singleton, hnode, hattributes] at h
  obtain ⟨label, hlabel, rfl⟩ := h.of_link
  -- The label is compared with the address after it has been escaped.
  have hsays : printAll label = String.ofList (escapeText link.address.toList) := by
    rw [hlabel.of_settled, printAll, print, printAll, String.append_empty]
  have hsame : (Admission.mailAddress? link.attributes = some (printAll label)) ↔
      escapeText link.address.toList = link.address.toList := by
    rw [Node.mailAddress?_eq_some_iff.mpr hhref, hsays, Option.some.injEq, ← String.toList_inj,
      String.toList_ofList]
    exact eq_comm
  have hshown : printAll (shownLabel link.attributes label) = link.label := by
    rw [shownLabel, MailLink.label]
    by_cases hself : escapeText link.address.toList = link.address.toList
    · rw [if_pos (hsame.mpr hself), if_pos hself, hsays, hself, String.toList_ofList, printAll,
        print, printAll, String.append_empty]
    · rw [if_neg (mt hsame.mp hself), if_neg hself, hsays]
  rw [printAll_element, printAll_element, hshown, htarget, MailLink.markup, MailLink.tag]
  simp only [String.append_assoc]

/-- The links of the nodes of which a draft is composed stand in what it settles to. -/
theorem Layout.Composed.holdsMailLinks {baseUrl : String} {draft : List Draft} {v : List Node}
    (h : Composed baseUrl draft v) (hkeeps : ∀ n ∈ v, n.KeepsLinks) {p q : Progress}
    {html : List Html} (hsettles : Settles settings highlighter p draft html q) :
    HoldsMailLinks (v.filterMap Node.mailLink?) (printAll html) := by
  -- A node that is no link adds none to those of the nodes behind it.
  have hother : ∀ {n : Node} (v : List Node), n.kind ≠ .link →
      (n :: v).filterMap Node.mailLink? = v.filterMap Node.mailLink? :=
    fun v hkind => List.filterMap_cons_none (Node.mailLink?_eq_none hkind)
  induction h generalizing p q html with
  | nil => exact .nil _
  | append hb hc ihb ihc =>
    obtain ⟨hkeepsb, hkeepsc⟩ := List.forall_mem_append.mp hkeeps
    obtain ⟨here, later, _, hhere, hlater, rfl⟩ := hsettles.of_append
    rw [List.filterMap_append, printAll_append]
    exact (ihb hkeepsb hhere).append (ihc hkeepsc hlater)
  | space hspace => exact .nil _
  | frame htag hne hkeys hbody ih =>
    obtain ⟨inner, hinner, rfl⟩ := hsettles.of_element
    rw [printAll_element]
    exact (ih hkeeps hinner).wrap _ _
  | backLink name reference => exact .nil _
  | @bare n body v hframe hbody ih =>
    obtain ⟨-, hkeepsv⟩ := List.forall_mem_cons.mp hkeeps
    rw [hother v (Node.ne_link_of_isFrame hframe)]
    exact ih hkeepsv hsettles
  | @element n tag attributes body v hframe htag hne hkeys hbody ih =>
    obtain ⟨-, hkeepsv⟩ := List.forall_mem_cons.mp hkeeps
    obtain ⟨inner, hinner, rfl⟩ := hsettles.of_element
    rw [hother v (Node.ne_link_of_isFrame hframe), printAll_element]
    exact (ih hkeepsv hinner).wrap _ _
  | leaf hopening =>
    rw [hother [] (Node.ne_link_of_opening hopening)]
    exact .nil _
  | code hspot hkeys =>
    rw [hother [] (Node.ne_link_of_codeSpot? hspot)]
    exact .nil _
  | @heading n level indent rawText body v hkind hbody ih =>
    obtain ⟨-, hkeepsv⟩ := List.forall_mem_cons.mp hkeeps
    obtain ⟨inner, hinner, rfl⟩ := hsettles.of_heading
    obtain ⟨before, after, hprint⟩ := printAll_headingHtml settings
      ⟨level, rawText, n.attributes, n.children, indent⟩
      (p.visit settings ⟨level, rawText, n.attributes, n.children, indent⟩).1
    rw [hother v (by simp [hkind]), hprint]
    exact (ih hkeepsv hinner).wrap before after
  | @anchor n body v hkind hbody ih =>
    obtain ⟨-, hkeepsv⟩ := List.forall_mem_cons.mp hkeeps
    obtain ⟨inner, hinner, rfl⟩ := hsettles.of_element
    rw [hother v (by simp [hkind]), printAll_element]
    exact (ih hkeepsv hinner).wrap _ _
  | @link n indent hkind hbody ih =>
    obtain ⟨hkeepsn, hkeepsv⟩ := List.forall_mem_cons.mp hkeeps
    cases hlink : n.mailLink? with
    | some link =>
      -- A text is all that such a link shows, so that no other link is in its label.
      obtain ⟨-, -, -, child, hchildren, htext⟩ := Node.mailLink?_eq_some_iff.mp hlink
      have hvisited : child.visited = [child] := by
        rw [Node.visited_eq, Node.shown, htext]
        rfl
      rw [List.filterMap_cons_some hlink, hchildren, List.flatMap_singleton, hvisited,
        hother [] (by simp [htext]), List.filterMap_nil, hsettles.printAll_mailLink hlink]
      exact .singleton link
    | none =>
      obtain ⟨label, hlabel, rfl⟩ := hsettles.of_link
      rw [List.filterMap_cons_none hlink, printAll_element, printAll_element]
      exact (((ih hkeepsv hlabel).shownLabel (hkeepsn hkind)).wrap _ _).wrap _ _

end Pages

/-! ## What is hidden -/

namespace MailLink

variable (link : MailLink)

/-- The target stays as it is in its attribute, of which there is one. -/
theorem tag_eq : ∃ before after : List (String × String),
    "href" ∉ (before ++ after).map Prod.fst ∧
    link.tag = "<a" ++ printEntries before
      ++ (" href=\"" ++ String.ofList (obfuscate "mailto".toList) ++ ":"
        ++ String.ofList (obfuscate link.address.toList) ++ "\"")
      ++ printEntries after ++ ">" := by
  have hget : (link.attributes.insert "href" link.href).get? "href" = some link.href := by
    rw [Attributes.get?_insert, if_pos rfl]
  obtain ⟨before, after, hentries, honce⟩ := Attributes.exists_entries_of_get? hget
  -- References and the colon between them are what escaping leaves alone.
  have hescape : escapeAttribute (Link.mailHref link.address.toList)
      = Link.mailHref link.address.toList := by
    have hcolon : escapeAttribute (':' :: obfuscate link.address.toList)
        = ':' :: obfuscate link.address.toList := by
      have hplain := escapeAttribute_append (s := [':']) (List.forall_mem_singleton.mpr (by decide))
        (obfuscate link.address.toList)
      have haddress := escapeAttribute_obfuscate link.address.toList []
      rw [List.append_nil, escapeAttribute, List.append_nil] at haddress
      rwa [haddress] at hplain
    rw [Link.mailHref, escapeAttribute_obfuscate, hcolon]
  have hvalue : printAttribute "href" link.href
      = " href=\"" ++ String.ofList (obfuscate "mailto".toList) ++ ":"
        ++ String.ofList (obfuscate link.address.toList) ++ "\"" := by
    have hhref : link.href = String.ofList (obfuscate "mailto".toList) ++ ":"
        ++ String.ofList (obfuscate link.address.toList) := by
      apply String.toList_inj.mp
      simp only [href, Link.mailHref, String.toList_append, String.toList_ofList]
      simp
    rw [printAttribute, href, String.toList_ofList, hescape, ← href, hhref]
    apply String.toList_inj.mp
    simp [String.toList_append]
  refine ⟨before, after, honce, ?_⟩
  rw [tag, openTag, hentries, printEntries_append, printEntries, hvalue]
  simp only [String.append_assoc]
  rfl

/-- The label is obfuscated exactly if escaping leaves the address as it is. -/
theorem label_eq_obfuscate_iff :
    link.label = String.ofList (obfuscate link.address.toList) ↔
      '&' ∉ link.address.toList ∧ '<' ∉ link.address.toList ∧ '>' ∉ link.address.toList := by
  rw [← escapeText_eq_self_iff, label]
  split
  · next hself => exact ⟨fun _ => hself, fun _ => rfl⟩
  · next hself =>
    constructor
    · intro h
      have heq := String.ofList_injective h
      -- The two escapes differ as soon as there is something to escape.
      by_cases hnil : link.address.toList = []
      · rw [hnil] at hself
        exact absurd rfl hself
      · exact absurd heq (escapeText_ne_obfuscate hnil)
    · intro h
      exact absurd h hself

/-- A label that is not obfuscated is the escaped address. -/
theorem label_eq_escapeText (h : link.label ≠ String.ofList (obfuscate link.address.toList)) :
    link.label = String.ofList (escapeText link.address.toList) := by
  rw [label] at h ⊢
  split at h
  · exact absurd rfl h
  · next hself => rw [if_neg hself]

/-- An address with a character that no reference has does not stand among references. -/
theorem not_within {c : Char} (hc : c ∈ link.address.toList) (hmark : c ∉ "&#;:".toList)
    (hdigit : c.isDigit = false) :
    ¬link.address.toList <:+: link.href.toList ∧
      ¬link.address.toList <:+: obfuscate link.address.toList := by
  have hnot : ∀ s, c ∉ obfuscate s := by
    intro s hmem
    rcases of_mem_obfuscate hmem with rfl | rfl | rfl | h
    · exact hmark (by decide)
    · exact hmark (by decide)
    · exact hmark (by decide)
    · rw [hdigit] at h
      cases h
  constructor
  · intro hpart
    have hmem := hpart.subset hc
    rw [href, String.toList_ofList, Link.mailHref, List.mem_append, List.mem_cons] at hmem
    rcases hmem with hscheme | rfl | haddress
    · exact hnot _ hscheme
    · exact hmark (by decide)
    · exact hnot _ haddress
  · intro hpart
    exact hnot _ (hpart.subset hc)

end MailLink

/-- **Mail addresses are hidden as far as escaping leaves them alone.** On a page stand
    the links of its document that show the address to which they lead, one after the
    other, each with its target obfuscated. The label is obfuscated exactly if the
    address has neither `&` nor `<` nor `>`; otherwise it is the escaped address. The
    address itself stands neither in the target nor in an obfuscated label, unless it
    could be a part of references. -/
theorem Renderer.mailLinks_hidden_iff (r : Renderer) (document : Node) (ids : HeadingIds)
    (page : Page) (hkeeps : ∀ n ∈ document.visited, n.KeepsLinks)
    (hpage : (r.renderWithIds document ids).1 = .ok page) :
    (∃ pieces : List String, pieces.length = document.mailLinks.length + 1 ∧
      page.html = weave pieces (document.mailLinks.map MailLink.markup)) ∧
    ∀ link : MailLink,
      (∃ before after : List (String × String), "href" ∉ (before ++ after).map Prod.fst ∧
        link.tag = "<a" ++ printEntries before
          ++ (" href=\"" ++ String.ofList (obfuscate "mailto".toList) ++ ":"
            ++ String.ofList (obfuscate link.address.toList) ++ "\"")
          ++ printEntries after ++ ">") ∧
      (link.label = String.ofList (obfuscate link.address.toList) ↔
        '&' ∉ link.address.toList ∧ '<' ∉ link.address.toList ∧ '>' ∉ link.address.toList) ∧
      (link.label ≠ String.ofList (obfuscate link.address.toList) →
        link.label = String.ofList (escapeText link.address.toList)) ∧
      ∀ c ∈ link.address.toList, c ∉ "&#;:".toList → c.isDigit = false →
        ¬link.address.toList <:+: link.href.toList ∧
          ¬link.address.toList <:+: obfuscate link.address.toList := by
  constructor
  · obtain ⟨html, progress, hsettles, rfl, -⟩ := settles_of_renderWithIds hpage
    have hcomposed := Layout.Composed.node r.settings.baseUrl document 0
    obtain ⟨t, hslots, hfill⟩ := hcomposed.holdsMailLinks hkeeps hsettles
    obtain ⟨pieces, hlength, hweave⟩ := t.exists_weave
    rw [hslots] at hlength hweave
    refine ⟨pieces, hlength, ?_⟩
    rw [← hfill, hweave]
    rfl
  · intro link
    refine ⟨link.tag_eq, link.label_eq_obfuscate_iff, link.label_eq_escapeText, ?_⟩
    intro c hc hmark hdigit
    exact link.not_within hc hmark hdigit

/-- A paragraph with a link to a mail address that shows the address. -/
def Node.mailTo (address : String) : Node :=
  .ofKind .document [.ofKind .paragraph
    [⟨.link, .ofList [("href", "mailto:" ++ address)], [.ofText address]⟩]]

theorem Renderer.mailLinks_hidden_plain :
    ∃ page, (Renderer.mk {} .plain).render (.mailTo "ann@example.com") = .ok page ∧
      (Node.mailTo "ann@example.com").mailLinks.map (·.address) = ["ann@example.com"] ∧
      (∃ pieces : List String, page.html
        = weave pieces ((Node.mailTo "ann@example.com").mailLinks.map MailLink.markup)) ∧
      ∀ link ∈ (Node.mailTo "ann@example.com").mailLinks,
        link.label = String.ofList (obfuscate link.address.toList) := by
  have hlinks : (Node.mailTo "ann@example.com").mailLinks.map (·.address)
      = ["ann@example.com"] := by
    decide +kernel
  have hlabels : (Node.mailTo "ann@example.com").visited.all (fun n => n.kind != .link ||
      ((n.children.flatMap Node.visited).filterMap Node.mailLink?).isEmpty) = true := by
    decide +kernel
  have hkeeps : ∀ n ∈ (Node.mailTo "ann@example.com").visited, n.KeepsLinks := by
    intro n hn hkind address haddress htag
    have hlabel := List.all_eq_true.mp hlabels n hn
    rw [hkind] at hlabel
    exact List.isEmpty_iff.mp hlabel
  have hok : ((Renderer.mk {} .plain).render (.mailTo "ann@example.com")).isOk := by
    decide +kernel
  obtain ⟨page, hpage⟩ := isOk_iff.mp hok
  obtain ⟨⟨pieces, -, hweave⟩, hlabels⟩ :=
    mailLinks_hidden_iff ⟨{}, .plain⟩ (.mailTo "ann@example.com") .empty page hkeeps hpage
  refine ⟨page, hpage, hlinks, ⟨pieces, hweave⟩, fun link hlink => ?_⟩
  have haddress : link.address = "ann@example.com" := by
    have hmem := List.mem_map_of_mem (f := MailLink.address) hlink
    rw [hlinks] at hmem
    exact List.mem_singleton.mp hmem
  refine (hlabels link).2.1.mpr ?_
  rw [haddress]
  decide

/-- The label of a link to an address with `&` stands in plain text. -/
theorem Renderer.mailLinks_not_hidden_amp :
    (Node.mailTo "r&d@example.com").mailLinks.map (·.address) = ["r&d@example.com"] ∧
      ((Renderer.mk {} .plain).render (.mailTo "r&d@example.com")).toOption.map (·.html)
        = some ("<p><a href=\"" ++ String.ofList (Link.mailHref "r&d@example.com".toList)
          ++ "\"><span>r&amp;d@example.com</span></a></p>\n") ∧
      "r&amp;d@example.com" ≠ String.ofList (obfuscate "r&d@example.com".toList) := by
  refine ⟨?_, ?_, ?_⟩ <;> decide +kernel

end DocSite
