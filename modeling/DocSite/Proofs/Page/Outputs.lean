/-
  DocSite.Proofs.Page.Outputs

  What a page owes to the highlighter: the content of its code elements, and nothing
  else. The requests of a document, and all that stands around the answers to them,
  are the same for every highlighter, so that a page is its fixed pieces with the
  answers between them, as they are.

  A draft is settled here for all highlighters at once: one text with a slot for each
  request, which whatever answers fill. Labels of mail links are where settling looks
  at what has been printed. A label with code in it has a tag, and so it is not an
  address without one, whatever the answer; any other label is the same for all
  highlighters.
-/
import DocSite.Proofs.Except
import DocSite.Proofs.Html.Template
import DocSite.Proofs.Page.Composition
import DocSite.Proofs.Page.Failure
import DocSite.Proofs.Page.LinkElement

namespace DocSite

open DocSite.Html

/-! ## Requests -/

/-- What a code element asks of a highlighter, if its directive can be read. -/
def CodeSpot.request? (spot : CodeSpot) : Option HighlightRequest :=
  match LineSelection.parse spot.directive with
  | .error _ => none
  | .ok lines => some ⟨spot.code, spot.language, spot.mode, lines⟩

/-- The answer to a request is that of the code element. -/
theorem CodeSpot.highlight_eq_ok {spot : CodeSpot} {request : HighlightRequest}
    {highlighter : Highlighter} {output : String} (h : spot.request? = some request)
    (houtput : highlighter.highlight request = .ok output) :
    spot.highlight highlighter = .ok output := by
  unfold request? at h
  split at h
  · cases h
  · next lines hparse =>
    obtain rfl := Option.some.inj h
    rw [highlight, hparse]
    simp only [houtput]

/-- The requests of a document, in the order in which the page prints the answers. -/
def Node.requests (document : Node) : List HighlightRequest :=
  document.codeSpots.filterMap CodeSpot.request?

/-- The directives of the blocks of code that reach the page can be read. -/
def Node.HasReadableDirectives (document : Node) : Prop :=
  ∀ n ∈ document.visited, ∀ code directive, n.kind = .codeBlock code →
    CodeClass.Directs (n.attribute? "class") directive →
    ∃ lines, LineSelection.parse directive = .ok lines

/-- Then every code element has a request. -/
theorem Node.HasReadableDirectives.request? {document : Node}
    (h : document.HasReadableDirectives) {n : Node} (hn : n ∈ document.visited) {spot : CodeSpot}
    (hspot : n.codeSpot? = some spot) : ∃ request, spot.request? = some request := by
  have hread : ∃ lines, LineSelection.parse spot.directive = .ok lines := by
    unfold codeSpot? at hspot
    split at hspot
    · next code hkind =>
      obtain rfl := Option.some.inj hspot
      exact h n hn code _ hkind (CodeClass.directs_directive? _)
    · obtain rfl := Option.some.inj hspot
      exact ⟨.empty, rfl⟩
    · cases hspot
  obtain ⟨lines, hlines⟩ := hread
  exact ⟨⟨spot.code, spot.language, spot.mode, lines⟩, by rw [CodeSpot.request?, hlines]⟩

/-- The links that are visited lead to no mail address that holds a tag. -/
theorem Node.HasPlainAddresses.not_mem {document : Node} (h : document.HasPlainAddresses)
    {n : Node} (hn : n ∈ document.visited) (hkind : n.kind = .link) {address : String}
    (haddress : Admission.mailAddress? n.attributes = some address) : '<' ∉ address.toList := by
  have hadmits := h.throughout.of_mem_visited Admission.Admits.of_text hn
  rw [hkind] at hadmits
  exact hadmits.2 address haddress

/-! ## Drafts -/

/-- The place of an answer: the element of code around it. -/
structure CodeSlot where
  attributes : Attributes
  request : HighlightRequest

/-- An element of code around text. -/
def codeMarkup (attributes : Attributes) (output : String) : String :=
  openTag "code" attributes ++ output ++ closeTag "code"

/-- A place with its answer. -/
def CodeSlot.markup (answer : HighlightRequest → String) (slot : CodeSlot) : String :=
  codeMarkup slot.attributes (answer slot.request)

/-- Whatever a highlighter answers to the requests, a draft settles to one text with the
    answers in its slots. -/
def Fits (settings : RenderSettings) (draft : List Draft) (requests : List HighlightRequest) :
    Prop :=
  ∀ p : Progress, ∃ (t : Template CodeSlot) (q : Progress),
    t.slots.map CodeSlot.request = requests ∧
    ∀ (highlighter : Highlighter) (answer : HighlightRequest → String),
      (∀ request ∈ requests, highlighter.highlight request = .ok (answer request)) →
      ∃ html, Settles settings highlighter p draft html q ∧
        printAll html = t.fill (CodeSlot.markup answer)

namespace Fits

variable {settings : RenderSettings} {b c : List Draft} {s t : List HighlightRequest}

theorem nil : Fits settings [] [] :=
  fun p => ⟨[], p, rfl, fun _ _ _ => ⟨[], .nil p, rfl⟩⟩

theorem append (hb : Fits settings b s) (hc : Fits settings c t) :
    Fits settings (b ++ c) (s ++ t) := by
  intro p
  obtain ⟨u, q, hu, hsettlesb⟩ := hb p
  obtain ⟨v, r, hv, hsettlesc⟩ := hc q
  refine ⟨u ++ v, r, by rw [Template.slots_append, List.map_append, hu, hv], ?_⟩
  intro highlighter answer hanswer
  obtain ⟨hanswerb, hanswerc⟩ := List.forall_mem_append.mp hanswer
  obtain ⟨here, hhere, hprinthere⟩ := hsettlesb highlighter answer hanswerb
  obtain ⟨later, hlater, hprintlater⟩ := hsettlesc highlighter answer hanswerc
  refine ⟨here ++ later, hhere.append hlater, ?_⟩
  rw [printAll_append, Template.fill_append, hprinthere, hprintlater]

theorem settled (html : Html) : Fits settings [.settled html] [] := by
  intro p
  refine ⟨[.fixed html.print], p, rfl, fun _ _ _ => ⟨[html], .settled html (.nil p), ?_⟩⟩
  rw [printAll, printAll, Template.fill, Template.fill]

theorem element (tag : String) (attributes : Attributes) (hb : Fits settings b s) :
    Fits settings [.element tag attributes b] s := by
  intro p
  obtain ⟨u, q, hu, hsettles⟩ := hb p
  refine ⟨.fixed (openTag tag attributes) :: (u ++ [.fixed (closeTag tag)]), q, ?_, ?_⟩
  · rw [Template.slots, Template.slots_append, Template.slots, Template.slots, List.append_nil, hu]
  · intro highlighter answer hanswer
    obtain ⟨inner, hinner, hprint⟩ := hsettles highlighter answer hanswer
    refine ⟨[.element tag attributes inner], .element tag attributes hinner (.nil q), ?_⟩
    rw [printAll, printAll, print, hprint, Template.fill, Template.fill_append, Template.fill,
      Template.fill, String.append_empty, String.append_empty, String.append_assoc]

theorem code (attributes : Attributes) {spot : CodeSpot} {request : HighlightRequest}
    (hrequest : spot.request? = some request) :
    Fits settings [.element "code" attributes [.code spot]] [request] := by
  intro p
  refine ⟨[.slot ⟨attributes, request⟩], p, rfl, fun highlighter answer hanswer => ?_⟩
  have hhighlight : spot.highlight highlighter = .ok (answer request) :=
    CodeSpot.highlight_eq_ok hrequest (hanswer request (List.mem_singleton.mpr rfl))
  refine ⟨[.element "code" attributes [.raw (answer request)]],
    .element "code" attributes (.code spot hhighlight (.nil p)) (.nil p), ?_⟩
  rw [printAll, printAll, print, printAll, print, printAll, Template.fill, Template.fill,
    CodeSlot.markup, codeMarkup, String.append_empty, String.append_empty, String.append_empty]

theorem heading (spot : HeadingSpot) (hb : Fits settings b s) :
    Fits settings [.heading spot b] s := by
  intro p
  obtain ⟨u, q, hu, hsettles⟩ := hb (p.visit settings spot).2
  obtain ⟨before, after, hprint⟩ :=
    printAll_headingHtml settings spot (p.visit settings spot).1
  refine ⟨.fixed before :: (u ++ [.fixed after]), q, ?_, ?_⟩
  · rw [Template.slots, Template.slots_append, Template.slots, Template.slots, List.append_nil, hu]
  · intro highlighter answer hanswer
    obtain ⟨inner, hinner, hprintinner⟩ := hsettles highlighter answer hanswer
    refine ⟨_, .heading spot hinner (.nil q), ?_⟩
    rw [List.append_nil, hprint, hprintinner, Template.fill, Template.fill_append, Template.fill,
      Template.fill, String.append_empty, String.append_assoc]

/-- A label without code is the same for all highlighters, and one with code is kept. -/
theorem mailLabel {address : String} (hplain : '<' ∉ address.toList) (hb : Fits settings b s) :
    Fits settings [.mailLabel address b] s := by
  intro p
  obtain ⟨u, q, hu, hsettles⟩ := hb p
  -- Where there is a slot there is a tag, of which the address has none.
  have hshows : ∀ answer, u.slots ≠ [] → u.fill (CodeSlot.markup answer) ≠ address := by
    intro answer hslots heq
    obtain ⟨slot, hslot⟩ := List.exists_mem_of_ne_nil _ hslots
    have hpart := Template.infix_fill (CodeSlot.markup answer) hslot
    rw [heq] at hpart
    have htag : '<' ∈ (slot.markup answer).toList := by
      simp [CodeSlot.markup, codeMarkup, openTag]
    exact hplain (hpart.subset htag)
  -- Without slots there is nothing that depends on the answers.
  have hsame : ∀ answer, u.slots = [] →
      u.fill (CodeSlot.markup answer) = u.fill (CodeSlot.markup fun _ => "") := by
    intro answer hslots
    obtain ⟨pieces, -, hweave⟩ := u.exists_weave
    rw [hweave, hweave, hslots]
    rfl
  -- So that one comparison tells whether the label is shown, for all answers.
  by_cases hshown : u.fill (CodeSlot.markup fun _ => "") = address
  · have hslots : u.slots = [] := by
      by_contra hne
      exact hshows _ hne hshown
    refine ⟨[.fixed (String.ofList (obfuscate address.toList))], q, ?_, ?_⟩
    · rw [← hu, hslots]
      rfl
    · intro highlighter answer hanswer
      obtain ⟨label, hlabel, hprint⟩ := hsettles highlighter answer hanswer
      rw [hsame answer hslots, hshown] at hprint
      refine ⟨_, .mailShown address hlabel hprint (.nil q), ?_⟩
      rw [printAll, printAll, print, Template.fill, Template.fill]
  · refine ⟨u, q, hu, fun highlighter answer hanswer => ?_⟩
    obtain ⟨label, hlabel, hprint⟩ := hsettles highlighter answer hanswer
    have hkept : printAll label ≠ address := by
      rw [hprint]
      by_cases hslots : u.slots = []
      · rw [hsame answer hslots]
        exact hshown
      · exact hshows answer hslots
    refine ⟨_, .mailKept address hlabel hkept (.nil q), ?_⟩
    rw [List.append_nil, hprint]

end Fits

/-- A draft that is composed of nodes fits the requests of the nodes. -/
theorem Layout.Composed.fits {settings : RenderSettings} {baseUrl : String} {draft : List Draft}
    {v : List Node} (h : Composed baseUrl draft v)
    (hread : ∀ n ∈ v, ∀ spot, n.codeSpot? = some spot → ∃ request, spot.request? = some request)
    (hplain : ∀ n ∈ v, n.kind = .link → ∀ address,
      Admission.mailAddress? n.attributes = some address → '<' ∉ address.toList) :
    Fits settings draft ((v.filterMap Node.codeSpot?).filterMap CodeSpot.request?) := by
  -- Only nodes with code make requests; any other one leaves those of the nodes behind it
  -- as they are.
  have hnone : ∀ {n : Node} {v : List Node}, n.codeSpot? = none →
      (n :: v).filterMap Node.codeSpot? = v.filterMap Node.codeSpot? :=
    fun hn => List.filterMap_cons_none hn
  induction h with
  | nil => exact .nil
  | append hb hc ihb ihc =>
    obtain ⟨hreadb, hreadc⟩ := List.forall_mem_append.mp hread
    obtain ⟨hplainb, hplainc⟩ := List.forall_mem_append.mp hplain
    rw [List.filterMap_append, List.filterMap_append]
    exact (ihb hreadb hplainb).append (ihc hreadc hplainc)
  | space hspace =>
    obtain ⟨s, rfl⟩ := Draft.exists_of_isSpace hspace
    exact .settled (.text s)
  | frame htag hne hkeys hbody ih => exact .element _ _ (ih hread hplain)
  | backLink name reference => exact .element _ _ (.settled _)
  | @bare n body v hframe hbody ih =>
    obtain ⟨-, hread⟩ := List.forall_mem_cons.mp hread
    obtain ⟨-, hplain⟩ := List.forall_mem_cons.mp hplain
    rw [hnone (Node.codeSpot?_of_isFrame hframe)]
    exact ih hread hplain
  | @element n tag attributes body v hframe htag hne hkeys hbody ih =>
    obtain ⟨-, hread⟩ := List.forall_mem_cons.mp hread
    obtain ⟨-, hplain⟩ := List.forall_mem_cons.mp hplain
    rw [hnone (Node.codeSpot?_of_isFrame hframe)]
    exact .element _ _ (ih hread hplain)
  | @leaf n html hopening =>
    rw [hnone (Node.codeSpot?_of_opening hopening)]
    exact .settled html
  | @code n attributes spot hspot hkeys =>
    obtain ⟨request, hrequest⟩ := hread n (List.mem_singleton.mpr rfl) spot hspot
    rw [List.filterMap_cons_some hspot, List.filterMap_cons_some hrequest]
    exact .code attributes hrequest
  | @heading n level indent rawText body v hkind hbody ih =>
    obtain ⟨-, hread⟩ := List.forall_mem_cons.mp hread
    obtain ⟨-, hplain⟩ := List.forall_mem_cons.mp hplain
    rw [hnone (by rw [Node.codeSpot?, hkind])]
    exact .heading _ (ih hread hplain)
  | @anchor n body v hkind hbody ih =>
    obtain ⟨-, hread⟩ := List.forall_mem_cons.mp hread
    obtain ⟨-, hplain⟩ := List.forall_mem_cons.mp hplain
    rw [hnone (by rw [Node.codeSpot?, hkind])]
    exact .element _ _ (ih hread hplain)
  | @link n indent hkind hbody ih =>
    obtain ⟨-, hread⟩ := List.forall_mem_cons.mp hread
    obtain ⟨hown, hplain⟩ := List.forall_mem_cons.mp hplain
    rw [hnone (by rw [Node.codeSpot?, hkind]), Layout.link_eq]
    refine .element _ _ (.element _ _ ?_)
    -- A label gives way only where it is the address, and one with code in it is not.
    cases haddress : Admission.mailAddress? n.attributes with
    | none => exact ih hread hplain
    | some address => exact .mailLabel (hown hkind address haddress) (ih hread hplain)

/-! ## Pages -/

/-- Answers to requests one after the other are those of a function. -/
theorem exists_answer {highlighter : Highlighter} {requests : List HighlightRequest}
    {outputs : List String}
    (h : List.Forall₂ (fun request output => highlighter.highlight request = .ok output)
      requests outputs) :
    ∃ answer : HighlightRequest → String,
      (∀ request ∈ requests, highlighter.highlight request = .ok (answer request)) ∧
        outputs = requests.map answer := by
  -- No request asks for what the highlighter fails on, so that any text will do there.
  refine ⟨fun request => (highlighter.highlight request).toOption.getD "", ?_⟩
  induction h with
  | nil => exact ⟨fun _ hmem => absurd hmem List.not_mem_nil, rfl⟩
  | cons hhead htail ih =>
    obtain ⟨hrest, houtputs⟩ := ih
    refine ⟨List.forall_mem_cons.mpr ⟨?_, hrest⟩, ?_⟩
    · simp only [hhead]
      rfl
    · simp only [List.map_cons, hhead, ← houtputs]
      rfl

/-- **The highlighter decides the content of code and nothing else.** There are requests
    and pieces such that whatever highlighter answers all requests, the page is woven of
    the pieces and the answers in the order of the requests, each answer as it is between
    the tags of an element of code. Title, table of contents and identifiers are the
    same for all highlighters. -/
theorem Renderer.renderWithIds_weave (settings : RenderSettings) (document : Node)
    (ids : HeadingIds) (hplain : document.HasPlainAddresses)
    (hread : document.HasReadableDirectives) :
    ∃ (pieces : List String) (tags : List Attributes) (toc : List TocEntry)
      (title : Option String) (issued : HeadingIds),
      pieces.length = document.requests.length + 1 ∧ tags.length = document.requests.length ∧
      ∀ (highlighter : Highlighter) (outputs : List String),
        List.Forall₂ (fun request output => highlighter.highlight request = .ok output)
          document.requests outputs →
        (Renderer.mk settings highlighter).renderWithIds document ids
          = (.ok ⟨weave pieces (List.zipWith codeMarkup tags outputs), toc, title⟩, issued) := by
  have hfits : Fits settings (Draft.ofNode settings.baseUrl document) document.requests :=
    (Layout.Composed.node settings.baseUrl document 0).fits
      (fun n hn spot hspot => hread.request? hn hspot)
      fun n hn hkind address haddress => hplain.not_mem hn hkind haddress
  -- The template comes before any highlighter: pieces and tags are read off it.
  obtain ⟨t, q, hrequests, hsettles⟩ := hfits (.start ids)
  obtain ⟨pieces, hlength, hweave⟩ := t.exists_weave
  refine ⟨pieces, t.slots.map CodeSlot.attributes, q.toc, q.title, q.ids, ?_, ?_, ?_⟩
  · rw [hlength, ← hrequests, List.length_map]
  · rw [← hrequests, List.length_map, List.length_map]
  · intro highlighter outputs hforall
    obtain ⟨answer, hanswer, rfl⟩ := exists_answer hforall
    obtain ⟨html, hhtml, hprint⟩ := hsettles highlighter answer hanswer
    have hcode : t.slots.map (CodeSlot.markup answer)
        = List.zipWith codeMarkup (t.slots.map CodeSlot.attributes)
            (document.requests.map answer) := by
      rw [← hrequests, List.map_map, List.zipWith_map, List.zipWith_self]
      rfl
    rw [← hcode, ← hweave, ← hprint, renderWithIds]
    dsimp only
    rw [hhtml.run_eq]
    rfl

/-- A document with code inside text and a block of code. -/
def Node.codeSample (cls : String) : Node :=
  .ofKind .document
    [.ofKind .paragraph [.leaf (.codeSpan "x")],
      (Node.leaf (.codeBlock "a\nb\n")).withAttribute "class" cls]

theorem Node.hasPlainAddresses_codeSample (cls : String) :
    (Node.codeSample cls).HasPlainAddresses := by
  intro n hn hkind
  have hnone : ∀ m ∈ (Node.codeSample cls).subtree, m.kind ≠ .link := by
    rw [codeSample]
    intro m hm
    simp only [subtree, subtreeAll, ofKind, leaf, withAttribute, List.append_nil,
      List.cons_append, List.nil_append, List.mem_cons, List.not_mem_nil, or_false] at hm
    rcases hm with rfl | rfl | rfl | rfl <;> simp
  exact absurd hkind (hnone n hn)

theorem Renderer.renderWithIds_weave_codeSample :
    (Node.codeSample "language-python{1}").HasPlainAddresses ∧
      (Node.codeSample "language-python{1}").HasReadableDirectives ∧
      (Node.codeSample "language-python{1}").requests
        = [⟨"x", "text", .span, ⟨[]⟩⟩, ⟨"a\nb\n", "python", .block, ⟨[1]⟩⟩] ∧
      ∃ (pieces : List String) (tags : List Attributes) (toc : List TocEntry)
        (title : Option String) (issued : HeadingIds), pieces.length = 3 ∧ tags.length = 2 ∧
        ∀ (highlighter : Highlighter) (outputs : List String),
          List.Forall₂ (fun request output => highlighter.highlight request = .ok output)
            (Node.codeSample "language-python{1}").requests outputs →
          (Renderer.mk {} highlighter).renderWithIds (.codeSample "language-python{1}") .empty
            = (.ok ⟨weave pieces (List.zipWith codeMarkup tags outputs), toc, title⟩, issued) := by
  have hplain := Node.hasPlainAddresses_codeSample "language-python{1}"
  have hparse : (Node.codeSample "language-python{1}").visited.all (fun n =>
      (LineSelection.parse (CodeClass.directive? (n.attribute? "class"))).isOk) = true := by
    decide +kernel
  have hread : (Node.codeSample "language-python{1}").HasReadableDirectives := by
    intro n hn code directive hkind hdirects
    have hok := List.all_eq_true.mp hparse n hn
    rw [hdirects.directive?_eq] at hok
    exact isOk_iff.mp hok
  have hrequests : (Node.codeSample "language-python{1}").requests
      = [⟨"x", "text", .span, ⟨[]⟩⟩, ⟨"a\nb\n", "python", .block, ⟨[1]⟩⟩] := by
    decide +kernel
  obtain ⟨pieces, tags, toc, title, issued, hpieces, htags, hpage⟩ :=
    renderWithIds_weave {} (.codeSample "language-python{1}") .empty hplain hread
  rw [hrequests] at hpieces htags
  exact ⟨hplain, hread, hrequests, pieces, tags, toc, title, issued, hpieces, htags, hpage⟩

/-- A document with a directive that cannot be read has no page, whatever the highlighter
    answers. -/
theorem Renderer.renderWithIds_not_woven_malformed :
    (Node.codeSample "language-text{x}").HasPlainAddresses ∧
      ¬∃ (requests : List HighlightRequest) (pieces : List String),
        ∀ (highlighter : Highlighter) (outputs : List String),
          List.Forall₂ (fun request output => highlighter.highlight request = .ok output)
            requests outputs →
          ∃ page, (Renderer.mk {} highlighter).render (.codeSample "language-text{x}") = .ok page ∧
            page.html = weave pieces outputs := by
  refine ⟨Node.hasPlainAddresses_codeSample _, ?_⟩
  rintro ⟨requests, pieces, hwoven⟩
  -- A highlighter that answers everything answers the requests, whatever they are.
  let mute : Highlighter := .ofBackend ⟨"mute", [], fun _ => true, fun _ => .ok ""⟩
  have hanswers : List.Forall₂ (fun request output => mute.highlight request = .ok output)
      requests (requests.map fun _ => "") := by
    rw [List.forall₂_map_right_iff, List.forall₂_same]
    intro request hrequest
    rfl
  obtain ⟨page, hpage, -⟩ := hwoven mute _ hanswers
  have hfails : ((Renderer.mk {} mute).render (.codeSample "language-text{x}")).isOk = false := by
    decide +kernel
  rw [hpage] at hfails
  cases hfails

end DocSite
