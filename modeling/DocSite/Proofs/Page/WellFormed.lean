/-
  DocSite.Proofs.Page.WellFormed

  The HTML of a page is well-formed. All names in it are the layout's own or
  admitted of the author, whose texts, values and identifiers stand where no
  character of theirs is markup.
-/
import DocSite.Proofs.Highlight.Plain
import DocSite.Proofs.Page.Settling
import DocSite.Proofs.Page.Sound

namespace DocSite

open DocSite.Html DocSite.Markup DocSite.Text

/-! ## Sound pages -/

/-- What is admitted of the author of a well-formed page. -/
def Admission.wellFormed (raw mail : String → Prop) : Admission where
  key := IsPlainName
  reference name := IsReferenceName name.toList
  raw s := WellFormed s.toList ∧ raw s
  mail := mail
  key_of_mem := by decide

theorem isElementName_layoutTag : ∀ tag ∈ layoutTags, IsElementName tag.toList := by decide

theorem mem_voidTags_of_emptyTag : ∀ tag ∈ emptyTags, tag.toList ∈ voidTags := by decide

/-- The name of the element of a heading. -/
theorem isElementName_heading (level : Nat) :
    IsElementName ("h" ++ String.ofList (decimal level)).toList := by
  rw [String.toList_append, String.toList_ofList (l := decimal level)]
  refine ⟨rfl, fun c hc => ?_⟩
  rcases List.mem_append.mp hc with hc | hc
  · rw [List.mem_singleton.mp hc]
    rfl
  · have hdigit := isDigit_of_mem_decimal hc
    rw [isTagChar, Char.isAlphanum, hdigit, Bool.or_true, Bool.true_or]

variable {raw mail : String → Prop}

/-- The attributes of anchors and permalinks. -/
theorem plainKeys_pair {key : String} (hkey : key ∈ layoutKeys) (value cls : String) :
    PlainKeys (.ofList [(key, value), ("class", cls)]) := by
  refine Admission.keys_ofList (a := .wellFormed (fun _ => True) fun _ => True) ?_
  intro entry hentry
  rcases List.mem_cons.mp hentry with rfl | hentry
  · exact hkey
  · have hclass : "class" ∈ layoutKeys := by decide
    rwa [List.mem_singleton.mp hentry]

/-- Attributes stay plain with a key that the layout sets. -/
theorem plainKeys_insert {attributes : Attributes} (h : PlainKeys attributes) {key : String}
    (hkey : key ∈ layoutKeys) (value : String) : PlainKeys (attributes.insert key value) := by
  have hadmits : (Admission.wellFormed (fun _ => True) fun _ => True).Keys attributes := h
  exact hadmits.insert (Admission.key_of_mem _ key hkey) value

/-- The HTML of a heading is sound whatever its identifier is. -/
theorem soundAll_headingHtml {allowed : String → Prop} (settings : RenderSettings)
    {spot : HeadingSpot} (id : Option String) {body : List Html}
    (hkeys : (Admission.wellFormed raw mail).Keys spot.attributes) (hbody : SoundAll allowed body) :
    SoundAll allowed (headingHtml settings spot id body) := by
  have hblock : ∀ (tag : String) (attributes : Attributes) (inner : List Html) (indent : Nat),
      IsElementName tag.toList → PlainKeys attributes → SoundAll allowed inner →
      SoundAll allowed (Html.block tag attributes inner indent) := by
    intro tag attributes inner indent htag hkeys hinner
    exact ⟨trivial, ⟨htag, hkeys, hinner⟩, trivial, trivial⟩
  have htag := isElementName_heading (settings.outputLevel spot.level)
  cases id with
  | none => exact hblock _ _ _ _ htag hkeys hbody
  | some id =>
    rw [headingHtml, soundAll_append]
    refine ⟨hblock _ _ _ _ (by decide) (plainKeys_pair (by decide) _ _) trivial, ?_⟩
    refine hblock _ _ _ _ htag (hkeys.insert (Admission.key_of_mem _ _ (by decide)) _) ?_
    rw [soundAll_append]
    refine ⟨hbody, ?_⟩
    split
    · exact ⟨⟨by decide, plainKeys_pair (by decide) _ _, trivial⟩, trivial⟩
    · trivial

/-- A sound draft settles to sound HTML, in which what is raw is the author's or
    the plain backend's. -/
theorem Settles.sound {settings : RenderSettings} {highlighter : Highlighter} {p q : Progress}
    {draft : List Draft} {html : List Html} (h : Settles settings highlighter p draft html q)
    (hplain : highlighter.backend = .plain)
    (hdraft : Draft.SoundAll (.wellFormed raw mail) draft) :
    SoundAll (fun s => raw s ∨ HasMarksOnly s.toList) html := by
  -- What comes from no author is well-formed by what it is made of.
  have hmarks : ∀ {s : String}, HasMarksOnly s.toList →
      (Html.raw s).Sound fun s => raw s ∨ HasMarksOnly s.toList := by
    intro s hs
    obtain ⟨tags, hreads, -⟩ := id hs
    exact ⟨Option.isSome_iff_exists.mpr ⟨tags, hreads.read_eq⟩, .inr hs⟩
  induction h with
  | nil => trivial
  | settled html _ ih =>
    obtain ⟨hhtml, hrest⟩ := Draft.soundAll_cons.mp hdraft
    refine ⟨?_, ih hrest⟩
    cases html with
    | text s => trivial
    | raw s => exact ⟨hhtml.1, .inl hhtml.2⟩
    | reference name =>
      intro hmem
      rcases IsReferenceName.mem hhtml hmem with h | h
      · exact absurd h (by decide)
      · exact absurd h (by decide)
    | element tag attributes body => exact hhtml.elim
    | void tag attributes =>
      exact ⟨mem_voidTags_of_emptyTag tag hhtml.1, hhtml.2⟩
  | element tag attributes _ _ ihbody ihrest =>
    obtain ⟨⟨htag, hkeys, hbody⟩, hrest⟩ := Draft.soundAll_cons.mp hdraft
    exact ⟨⟨isElementName_layoutTag tag htag, hkeys, ihbody hbody⟩, ihrest hrest⟩
  | code spot hcode _ ih =>
    obtain ⟨lines, rfl⟩ := CodeSpot.highlight_plain hplain hcode
    refine ⟨hmarks ?_, ih (Draft.soundAll_cons.mp hdraft).2⟩
    rw [String.toList_ofList]
    exact hasMarksOnly_plainHighlight _ _ _
  | heading spot _ _ ihbody ihrest =>
    obtain ⟨⟨hkeys, hbody⟩, hrest⟩ := Draft.soundAll_cons.mp hdraft
    rw [soundAll_append]
    exact ⟨soundAll_headingHtml settings _ hkeys (ihbody hbody), ihrest hrest⟩
  | mailShown address _ _ _ _ ihrest =>
    -- The label is left out, with all the markup in it.
    refine ⟨hmarks ?_, ihrest (Draft.soundAll_cons.mp hdraft).2⟩
    rw [String.toList_ofList]
    exact .of_not_mem (not_mem_obfuscate (.inl rfl) _)
  | mailKept address _ _ _ ihbody ihrest =>
    obtain ⟨⟨-, hbody⟩, hrest⟩ := Draft.soundAll_cons.mp hdraft
    rw [soundAll_append]
    exact ⟨ihbody hbody, ihrest hrest⟩

/-! ## Pages of documents -/

/-- The HTML that stands in a document as it is. -/
def Node.rawHtml (n : Node) : List String :=
  n.subtree.filterMap fun m =>
    match m.kind with
    | .htmlBlock html => some (Layout.closeLine html)
    | .htmlInline html => some html
    | _ => none

theorem wellFormed_closeLine {html : String} (h : WellFormed html.toList) :
    WellFormed (Layout.closeLine html).toList := by
  obtain ⟨tags, htags⟩ := Option.isSome_iff_exists.mp h
  unfold Layout.closeLine
  split
  · exact h
  · have hnewline : '<' ∉ "\n".toList := by decide
    have hreads := (reads_of_read htags).append (.of_not_mem hnewline)
    rw [String.toList_append]
    exact Option.isSome_iff_exists.mpr ⟨_, hreads.read_eq⟩

/-- **The HTML of a page is well-formed.** Its tags are those of the elements
    that its document's draft settles to, whatever characters the texts, the code,
    the values and the identifiers in it hold. Raw HTML is the author's, or has no
    tags but those of marked lines. -/
theorem Renderer.wellFormed_html (r : Renderer) (document : Node) (ids : HeadingIds) (page : Page)
    (hplain : r.highlighter.backend = .plain)
    (hkeys : ∀ n ∈ document.subtree, PlainKeys n.attributes)
    (hreferences : ∀ n ∈ document.subtree, ∀ name, n.kind = .entity name →
      IsReferenceName name.toList)
    (hraw : ∀ n ∈ document.subtree, ∀ html, n.kind = .htmlBlock html ∨ n.kind = .htmlInline html →
      WellFormed html.toList)
    (hpage : (r.renderWithIds document ids).1 = .ok page) :
    WellFormed page.html.toList ∧
      ∃ html progress,
        Settles r.settings r.highlighter (.start ids) (Draft.ofNode r.settings.baseUrl document)
          html progress ∧
        page.html = printAll html ∧
        read? page.html.toList = some (tagsAll html) ∧
        SoundAll (fun s => s ∈ document.rawHtml ∨ HasMarksOnly s.toList) html := by
  -- What the author wrote is admitted by the hypotheses, and the layout adds nothing to it.
  have hadmits : document.Throughout
      (Admission.wellFormed (· ∈ document.rawHtml) fun _ => True).Admits := by
    intro n hn
    refine ⟨hkeys n hn, ?_⟩
    split
    · next name hkind => exact hreferences n hn name hkind
    · next html hkind =>
      refine ⟨wellFormed_closeLine (hraw n hn html (.inl hkind)), ?_⟩
      exact List.mem_filterMap.mpr ⟨n, hn, by rw [hkind]⟩
    · next html hkind =>
      refine ⟨hraw n hn html (.inr hkind), ?_⟩
      exact List.mem_filterMap.mpr ⟨n, hn, by rw [hkind]⟩
    · exact fun _ _ => trivial
    · trivial
  obtain ⟨html, progress, hsettles, rfl, -⟩ := settles_of_renderWithIds hpage
  have hsound := hsettles.sound hplain (Layout.sound_node r.settings.baseUrl hadmits 0)
  have hread := hsound.reads.read_eq
  exact ⟨Option.isSome_iff_exists.mpr ⟨_, hread⟩, html, progress, hsettles, rfl, hread, hsound⟩

/-- A paragraph of which every text holds a tag. -/
def Node.tagsInTexts : Node :=
  .ofKind .paragraph
    [.ofText "</p>", .leaf (.codeSpan "<i>"), ⟨.image, .ofList [("alt", "\"><")], []⟩,
      .leaf (.htmlInline "<b>x</b>"), .leaf (.entity "amp")]

theorem Renderer.wellFormed_html_tagsInTexts :
    WellFormed ("<p>&lt;/p&gt;<code class=\"code highlight language-text\">&lt;i&gt;</code>" ++
      "<img alt=\"&quot;&gt;&lt;\" /><b>x</b>&amp;</p>\n").toList := by
  have hsubtree : Node.tagsInTexts.subtree
      = Node.tagsInTexts :: Node.tagsInTexts.children := rfl
  have hname : IsReferenceName "amp".toList := by decide
  have hmarkup : WellFormed "<b>x</b>".toList := by decide
  refine (wellFormed_html ⟨{}, .plain⟩ Node.tagsInTexts .empty ⟨_, [], none⟩ rfl (by decide)
    ?_ ?_ rfl).1
  · rw [hsubtree]
    simpa [Node.tagsInTexts, Node.ofKind, Node.leaf, Node.ofText] using hname
  · rw [hsubtree]
    simpa [Node.tagsInTexts, Node.ofKind, Node.leaf, Node.ofText] using hmarkup

end DocSite
