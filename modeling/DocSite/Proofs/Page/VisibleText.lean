/-
  DocSite.Proofs.Page.VisibleText

  A page shows the text of its document, white space aside: nothing is lost,
  repeated, moved or altered. The text is carried by the pieces of the document,
  and each piece shows on the page what it carries.
-/
import DocSite.Proofs.Document.ReferenceText
import DocSite.Proofs.Page.Pieces
import DocSite.Proofs.Page.WellFormed

namespace DocSite

open DocSite.Html DocSite.Markup DocSite.Text

/-! ## The text of pieces -/

/-- The text that a piece of a draft carries itself, without its white space. -/
def Draft.ink : Draft → List Char
  | .settled (.text s) => withoutBlanks s.toList
  | .settled (.reference name) => withoutBlanks (resolveEntity name.toList)
  | .code spot => withoutBlanks spot.code.toList
  | _ => []

theorem Draft.readsContent_ink : ReadsContent ink where
  space piece h := by
    unfold isSpace at h
    split at h
    · exact withoutBlanks_eq_nil h
    · cases h
  element _ _ _ := rfl
  mailLabel _ _ := rfl
  heading _ _ := rfl

namespace Node

theorem textOfAll_eq (children : List Node) :
    textOfAll false children = children.flatMap referenceText := by
  induction children with
  | nil => simp [textOfAll]
  | cons first rest ih => rw [textOfAll, ih, List.flatMap_cons, referenceText]

theorem textOfPart_eq (footnotes : Bool) (children : List Node) :
    textOfPart footnotes children
      = (children.filter (·.isFootnote = footnotes)).flatMap referenceText := by
  induction children with
  | nil => simp [textOfPart]
  | cons first rest ih =>
    rw [textOfPart, ih, List.filter_cons]
    by_cases hfirst : first.isFootnote = footnotes <;> simp [hfirst, referenceText]

theorem withoutBlanks_of_isGap {n : Node} (h : Layout.isGap n.kind = true) :
    withoutBlanks n.referenceText = [] := by
  obtain ⟨kind, attributes, children⟩ := n
  cases kind with
  | softBreak | lineBreak => simp [referenceText, textFrom]
  | text value =>
    have hempty : trimStart value.toList = [] := List.isEmpty_iff.mp h
    rw [referenceText, textFrom, ← withoutBlanks_trimStart, hempty, withoutBlanks_nil]
  | _ => cases h

/-- Nothing but white space goes with the gaps after a label. -/
theorem withoutBlanks_trimLead (content : List Node) :
    withoutBlanks ((trimLead content).flatMap referenceText)
      = withoutBlanks (content.flatMap referenceText) := by
  induction content with
  | nil => rfl
  | cons first rest ih =>
    rw [trimLead]
    split
    · next hgap =>
      rw [ih, List.flatMap_cons, withoutBlanks_append, withoutBlanks_of_isGap hgap,
        List.nil_append]
    · split
      · next value hkind =>
        obtain ⟨kind, attributes, children⟩ := first
        cases hkind
        rw [List.flatMap_cons, List.flatMap_cons, withoutBlanks_append, withoutBlanks_append,
          referenceText, textFrom, String.toList_ofList, withoutBlanks_trimStart, referenceText,
          textFrom]
      · rfl

/-- Only in a paragraph does it matter whether a node leads a quote. -/
theorem textFrom_true_eq {n : Node} (h : ∀ label content, n.kind = .paragraph →
    n.children ≠ label :: content) : n.textFrom true = n.referenceText := by
  obtain ⟨kind, attributes, children⟩ := n
  cases kind with
  | paragraph =>
    cases children with
    | nil => simp [referenceText, textFrom, textAfterLabel, textOfAll]
    | cons label content => exact absurd rfl (h label content rfl)
  | _ => simp only [referenceText, textFrom]

/-- A quote shows all of its text but the label. -/
theorem withoutBlanks_unlabelled (children : List Node) :
    withoutBlanks ((unlabelled children).flatMap referenceText)
      = withoutBlanks (textOfAll true children) := by
  unfold unlabelled
  split
  · next attributes label content rest =>
    have hquote : textOfAll true (⟨.paragraph, attributes, label :: content⟩ :: rest)
        = (if label.kind = .strong then [] else label.referenceText)
          ++ content.flatMap referenceText ++ rest.flatMap referenceText := by
      rw [textOfAll, textFrom, if_pos rfl, textAfterLabel, textOfAll_eq, textOfAll_eq]
      rfl
    have hparagraph : ∀ inner, referenceText ⟨.paragraph, attributes, inner⟩
        = inner.flatMap referenceText := by
      intro inner
      rw [referenceText, textFrom, if_neg (by decide), textOfAll_eq]
    rw [hquote]
    split
    · next hstrong =>
      -- With the label go the gaps after it, and the paragraph if nothing else is in it.
      have htrim := withoutBlanks_trimLead content
      rw [List.nil_append, withoutBlanks_append, ← htrim]
      split
      · next heq => rw [heq, List.flatMap_nil, withoutBlanks_nil, List.nil_append]
      · next first more heq =>
        rw [heq, List.flatMap_cons, hparagraph, withoutBlanks_append]
    · rw [List.flatMap_cons, hparagraph, List.flatMap_cons]
  · next hother =>
    cases children with
    | nil => rfl
    | cons first rest =>
      have hfirst : first.textFrom true = first.referenceText := by
        refine textFrom_true_eq fun label content hkind hchildren => ?_
        obtain ⟨kind, attributes, inner⟩ := first
        cases hkind
        cases hchildren
        exact hother attributes label content rest rfl
      rw [textOfAll, hfirst, textOfAll_eq, List.flatMap_cons]

theorem ink_backLinks (references : Nat) :
    (List.replicate references (Draft.text "↩")).flatMap Draft.ink
      = withoutBlanks (List.replicate references '↩') := by
  induction references with
  | zero => rfl
  | succ count ih =>
    rw [List.replicate_succ, List.replicate_succ, List.flatMap_cons, ih]
    rfl

/-- The pieces of a document carry its text. -/
theorem ink_pieces (n : Node) : n.pieces.flatMap Draft.ink = withoutBlanks n.referenceText := by
  induction hsize : n.size using Nat.strongRecOn generalizing n with
  | _ size ih =>
    subst hsize
    have hshown : (n.shown.flatMap pieces).flatMap Draft.ink
        = withoutBlanks (n.shown.flatMap referenceText) := by
      rw [List.flatMap_assoc, withoutBlanks_flatMap]
      exact List.flatMap_congr fun c hc => ih c.size (size_lt_of_mem_shown hc) c rfl
    rw [pieces_eq, List.flatMap_append, List.flatMap_append, hshown]
    obtain ⟨kind, attributes, children⟩ := n
    cases kind with
    | document =>
      -- The footnotes have moved in both, and in both in their own order.
      have hbodies : children.filter (!·.isFootnote) = children.filter (·.isFootnote = false) :=
        List.filter_congr fun c _ => by cases c.isFootnote <;> rfl
      have hnotes : children.filter (·.isFootnote) = children.filter (·.isFootnote = true) :=
        List.filter_congr fun c _ => by cases c.isFootnote <;> rfl
      simp only [opening, shown, closing, referenceText, textFrom, textOfPart_eq, hbodies, hnotes,
        List.flatMap_append, List.flatMap_nil, List.nil_append, List.append_nil]
    | blockquote =>
      simp only [opening, shown, closing, referenceText, textFrom, List.flatMap_nil,
        List.nil_append, List.append_nil]
      exact withoutBlanks_unlabelled children
    | footnoteDefinition name references =>
      simp only [opening, shown, closing, referenceText, textFrom, textOfAll_eq, ink_backLinks,
        List.flatMap_nil, List.nil_append, withoutBlanks_append]
    | text value | codeBlock code | codeSpan code | entity name =>
      simp [opening, shown, closing, referenceText, textFrom, Draft.ink, Draft.text]
    | image | htmlBlock html | htmlInline html | softBreak | lineBreak | thematicBreak =>
      simp [opening, shown, closing, referenceText, textFrom, Draft.ink, Draft.raw]
    | _ =>
      simp [opening, shown, closing, referenceText, textFrom, textOfAll_eq, Draft.ink]

end Node

/-! ## Settled pieces -/

/-- A document in which nothing is raw and no link leads to a mail address. -/
def Admission.plainText : Admission := .wellFormed (fun _ => False) fun _ => False

/-- A heading adds no text to its content. -/
theorem prints_headingHtml (settings : RenderSettings) {spot : HeadingSpot} (id : Option String)
    {body : List Html} {ink : List Char} (hkeys : Admission.plainText.Keys spot.attributes)
    (hbody : Prints (printAll body).toList ink) :
    Prints (printAll (headingHtml settings spot id body)).toList ink := by
  have hnothing : Prints (printAll []).toList [] := Shows.nil.prints
  have htag := isElementName_heading (settings.outputLevel spot.level)
  cases id with
  | none => exact .block htag hkeys hbody spot.indent
  | some id =>
    -- The anchor in front and the permalink behind the content hold no text.
    have hanchor : Prints (printAll (Html.block "a"
        (.ofList [("name", id), ("class", "elem-anchor")]) [] spot.indent)).toList [] :=
      .block (by decide) (plainKeys_pair (by decide) _ _) hnothing spot.indent
    have hpermalink : Prints (printAll
        (if settings.outputLevel spot.level ≤ settings.maxAnchoredLevel then
          [Html.element "a" (.ofList [("href", "#" ++ id), ("class", "anchor-link")]) []]
        else [])).toList [] := by
      split
      · rw [printAll, printAll, String.append_empty]
        exact .element (by decide) (plainKeys_pair (by decide) _ _) hnothing
      · exact hnothing
    have hinner := hbody.append hpermalink
    rw [List.append_nil, ← String.toList_append, ← printAll_append] at hinner
    have hkeys := hkeys.insert (Admission.key_of_mem _ "id" (by decide)) id
    rw [headingHtml, printAll_append, String.toList_append]
    exact hanchor.append (.block htag hkeys hinner spot.indent)

/-- A draft of plain text settles to HTML that prints what the draft carries. -/
theorem Settles.prints {settings : RenderSettings} {highlighter : Highlighter} {p q : Progress}
    {draft : List Draft} {html : List Html} (h : Settles settings highlighter p draft html q)
    (hplain : highlighter.backend = .plain) (hdraft : Draft.SoundAll .plainText draft) :
    Prints (printAll html).toList (Draft.collectAll Draft.ink draft) := by
  induction h with
  | nil => exact Shows.nil.prints
  | settled html _ ih =>
    obtain ⟨hhtml, hrest⟩ := Draft.soundAll_cons.mp hdraft
    rw [printAll, String.toList_append, Draft.collectAll, Draft.collect]
    refine .append ?_ (ih hrest)
    cases html with
    | text s =>
      rw [print, String.toList_ofList]
      exact (Shows.escapeText s.toList).prints
    | raw s => exact hhtml.2.elim
    | reference name =>
      have hprint : (print (.reference name)).toList = '&' :: (name.toList ++ [';']) := by
        simp [print]
      rw [hprint]
      exact (Shows.reference hhtml).prints
    | element tag attributes body => exact hhtml.elim
    | void tag attributes =>
      have hname := isElementName_of_mem_voidTags (mem_voidTags_of_emptyTag tag hhtml.1)
      rw [print]
      exact (Shows.void hname hhtml.2).prints
  | element tag attributes _ _ ihbody ihrest =>
    obtain ⟨⟨htag, hkeys, hbody⟩, hrest⟩ := Draft.soundAll_cons.mp hdraft
    have hname := isElementName_layoutTag tag htag
    rw [printAll, String.toList_append, Draft.collectAll, Draft.collect]
    exact (Prints.element hname hkeys (ihbody hbody)).append (ihrest hrest)
  | code spot hcode _ ih =>
    -- Whatever lines are marked, the tags of the marks are deleted.
    obtain ⟨lines, rfl⟩ := CodeSpot.highlight_plain hplain hcode
    rw [printAll, String.toList_append, Draft.collectAll, Draft.collect, print,
      String.toList_ofList]
    exact (shows_plainHighlight _ _ _).prints.append (ih (Draft.soundAll_cons.mp hdraft).2)
  | heading spot _ _ ihbody ihrest =>
    obtain ⟨⟨hkeys, hbody⟩, hrest⟩ := Draft.soundAll_cons.mp hdraft
    rw [printAll_append, String.toList_append, Draft.collectAll, Draft.collect]
    exact (prints_headingHtml settings _ hkeys (ihbody hbody)).append (ihrest hrest)
  | mailShown address _ _ _ _ _ => exact (Draft.soundAll_cons.mp hdraft).1.1.elim
  | mailKept address _ _ _ _ _ => exact (Draft.soundAll_cons.mp hdraft).1.1.elim

/-! ## Pages of documents -/

/-- **A page shows the text of its document.** Its HTML, with the tags deleted and
    the references decoded, is the document's text up to white space. -/
theorem Renderer.visibleText_html (r : Renderer) (document : Node) (ids : HeadingIds) (page : Page)
    (hplain : r.highlighter.backend = .plain)
    (hkeys : ∀ n ∈ document.subtree, PlainKeys n.attributes)
    (hreferences : ∀ n ∈ document.subtree, ∀ name, n.kind = .entity name →
      IsReferenceName name.toList)
    (hraw : ∀ n ∈ document.subtree, ∀ html, n.kind ≠ .htmlBlock html ∧ n.kind ≠ .htmlInline html)
    (hmail : ∀ n ∈ document.subtree, n.kind = .link → Admission.mailAddress? n.attributes = none)
    (hpage : (r.renderWithIds document ids).1 = .ok page) :
    withoutBlanks (decodeReferences (deleteTags page.html.toList))
      = withoutBlanks document.referenceText := by
  have hadmits : document.Throughout Admission.plainText.Admits := by
    intro n hn
    refine ⟨hkeys n hn, ?_⟩
    split
    · next name hkind => exact hreferences n hn name hkind
    · next html hkind => exact absurd hkind (hraw n hn html).1
    · next html hkind => exact absurd hkind (hraw n hn html).2
    · next hkind =>
      intro address haddress
      rw [hmail n hn hkind] at haddress
      cases haddress
    · trivial
  obtain ⟨html, progress, hsettles, rfl, -⟩ := settles_of_renderWithIds hpage
  obtain ⟨shown, hshows, hink⟩ :=
    hsettles.prints hplain (Layout.sound_node r.settings.baseUrl hadmits 0)
  rw [hshows.decode_eq, hink, ← Node.ink_pieces]
  exact Layout.collectAll_node Draft.readsContent_ink r.settings.baseUrl document 0

/-- A footnote before a quote with a label, in which one text ends with what would
    make a reference with the next. -/
def Node.scatteredText : Node :=
  .ofKind .document
    [.ofKind (.footnoteDefinition "n" 1) [.ofText "b"],
      .ofKind .blockquote
        [.ofKind .paragraph
          [.ofKind .strong [.ofText "Note:"], .ofText " a&", .ofText "amp;"]]]

set_option maxRecDepth 4000 in
theorem Renderer.visibleText_html_scatteredText :
    withoutBlanks (decodeReferences (deleteTags
      ("<aside class=\"note\">\n  <p>a&amp;amp;</p>\n</aside>\n<section class=\"footnotes\">\n" ++
        "  <ol>\n    <li id=\"fn-n\">\nb      <a href=\"#fnref-n\" class=\"footnote-backref\">" ++
        "↩</a>\n    </li>\n  </ol>\n</section>\n").toList)) = "a&amp;b↩".toList := by
  have hsubtree : Node.scatteredText.subtree.map Node.kind
      = [.document, .footnoteDefinition "n" 1, .text "b", .blockquote, .paragraph, .strong,
          .text "Note:", .text " a&", .text "amp;"] := rfl
  have hkinds : ∀ n ∈ Node.scatteredText.subtree,
      n.kind ∈ Node.scatteredText.subtree.map Node.kind := fun n hn => List.mem_map_of_mem hn
  rw [hsubtree] at hkinds
  refine (visibleText_html ⟨{}, .plain⟩ Node.scatteredText .empty ⟨_, [], none⟩ rfl (by decide)
    ?_ ?_ ?_ rfl).trans (by decide)
  · intro n hn name hkind
    simpa [hkind] using hkinds n hn
  · intro n hn html
    constructor <;> intro hkind <;> simpa [hkind] using hkinds n hn
  · intro n hn hkind
    simpa [hkind] using hkinds n hn

end DocSite
