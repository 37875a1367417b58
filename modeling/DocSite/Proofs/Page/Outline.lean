/-
  DocSite.Proofs.Page.Outline

  What a run over any number of documents records: the identifiers that are
  generated, the tables of contents and the titles. All of it is read off the
  headings that are visited, in the order of the visits. Documents share the
  identifiers issued so far, also with those before them that have no page.

  The visits of one page are put into closed form first, heading by heading; the
  run over documents then goes by induction, with the identifiers issued by the
  documents before as its start.
-/
import DocSite.Proofs.Page.Walk

namespace DocSite

open DocSite.Text

/-! ## One heading -/

namespace HeadingSpot

/-- The identifier that a heading has of its author. -/
def ownId? (spot : HeadingSpot) : Option String := spot.attributes.get? "id"

/-- A heading belongs in the table of contents: its level, before any offset, is one
    that is listed, and none of the words of its class keeps it out. -/
def Listed (settings : RenderSettings) (spot : HeadingSpot) : Prop :=
  spot.level ∈ settings.tocLevels ∧
    ∀ cls, spot.attributes.get? "class" = some cls → "no_toc".toList ∉ words cls.toList

theorem inToc_iff_listed (settings : RenderSettings) (spot : HeadingSpot) :
    settings.inToc spot.level (spot.attributes.get? "class") = true ↔ spot.Listed settings := by
  unfold RenderSettings.inToc Listed
  cases spot.attributes.get? "class" with
  | none => simp
  | some cls => simp

instance (settings : RenderSettings) (spot : HeadingSpot) : Decidable (spot.Listed settings) :=
  decidable_of_iff _ (inToc_iff_listed settings spot)

/-- The entry of a heading in the table of contents, given its identifier. -/
def listing? (settings : RenderSettings) (spot : HeadingSpot) (id : Option String) :
    Option TocEntry :=
  id.bind fun id =>
    if spot.Listed settings then some ⟨spot.level, id, spot.content⟩ else none

/-- The title that a heading gives to its page. -/
def title? (spot : HeadingSpot) : Option String :=
  if spot.level = 1 then some (String.ofList (trim spot.rawText.toList)) else none

end HeadingSpot

/-! ## The headings of a page -/

/-- The texts for which identifiers are generated: those of the headings without an
    identifier of their author, if there are to be identifiers for these. -/
def askedTexts (settings : RenderSettings) (spots : List HeadingSpot) : List (List Char) :=
  if settings.autoIds then
    (spots.filter fun spot => spot.ownId?.isNone).map fun spot => spot.rawText.toList
  else []

/-- The headings with their identifiers. One without an identifier of its author
    takes the next generated one, as long as there is one. -/
def named : List String → List HeadingSpot → List (HeadingSpot × Option String)
  | _, [] => []
  | generated, spot :: rest =>
    match spot.ownId? with
    | some id => (spot, some id) :: named generated rest
    | none => (spot, generated.head?) :: named generated.tail rest

/-- The table of contents of a page with the given headings. -/
def tocOf (settings : RenderSettings) (headings : List (HeadingSpot × Option String)) :
    List TocEntry :=
  headings.filterMap fun h => h.1.listing? settings h.2

/-- The title of a page with the given headings: the text of the first one of level
    one. -/
def titleOf (headings : List (HeadingSpot × Option String)) : Option String :=
  headings.findSome? fun h => h.1.title?

theorem map_fst_named (generated : List String) (spots : List HeadingSpot) :
    (named generated spots).map Prod.fst = spots := by
  induction spots generalizing generated with
  | nil => rfl
  | cons spot rest ih =>
    unfold named
    split <;> simp [ih]

/-! ## Visits -/

namespace Progress

variable (settings : RenderSettings)

theorem identify_of_some {spot : HeadingSpot} {id : String} (h : spot.ownId? = some id)
    (p : Progress) : p.identify settings spot = (some id, p) := by
  rw [HeadingSpot.ownId?] at h
  rw [identify, h]

theorem identify_of_none {spot : HeadingSpot} (h : spot.ownId? = none) (p : Progress) :
    p.identify settings spot =
      if settings.autoIds then
        (some (String.ofList (p.ids.generate spot.rawText.toList).1),
          { p with ids := (p.ids.generate spot.rawText.toList).2 })
      else (none, p) := by
  rw [HeadingSpot.ownId?] at h
  rw [identify, h]

/-- An identifier changes nothing but the identifiers issued. -/
theorem identify_snd (spot : HeadingSpot) (p : Progress) :
    (p.identify settings spot).2 = { p with ids := (p.identify settings spot).2.ids } := by
  cases h : spot.ownId? with
  | some id => rw [identify_of_some settings h]
  | none =>
    rw [identify_of_none settings h]
    split <;> rfl

theorem list_eq (spot : HeadingSpot) (id : Option String) (p : Progress) :
    p.list settings spot id
      = { p with toc := p.toc ++ (spot.listing? settings id).toList } := by
  cases id with
  | none => rw [list, HeadingSpot.listing?, Option.bind_none, Option.toList_none, List.append_nil]
  | some id =>
    rw [list, HeadingSpot.listing?, Option.bind_some]
    by_cases h : spot.Listed settings
    · rw [if_pos ((HeadingSpot.inToc_iff_listed settings spot).mpr h), if_pos h]
      rfl
    · rw [if_neg fun hin => h ((HeadingSpot.inToc_iff_listed settings spot).mp hin), if_neg h,
        Option.toList_none, List.append_nil]

theorem entitle_eq (spot : HeadingSpot) (p : Progress) :
    p.entitle spot = { p with title := p.title.or spot.title? } := by
  rw [entitle, HeadingSpot.title?]
  by_cases hlevel : spot.level = 1
  · cases htitle : p.title with
    | none => simp [hlevel]
    | some title => rw [if_neg (by simp), Option.some_or, ← htitle]
  · simp [hlevel]

/-- A visit records an entry of the table of contents and the title, if the heading
    gives any; what has been recorded before stays. -/
theorem visit_eq (spot : HeadingSpot) (p : Progress) :
    p.visit settings spot =
      ((p.identify settings spot).1,
        ⟨(p.identify settings spot).2.ids,
          p.toc ++ (spot.listing? settings (p.identify settings spot).1).toList,
          p.title.or spot.title?⟩) := by
  have hkept := identify_snd settings spot p
  have htoc : (p.identify settings spot).2.toc = p.toc := by rw [hkept]
  have htitle : (p.identify settings spot).2.title = p.title := by rw [hkept]
  show ((p.identify settings spot).1,
    ((p.identify settings spot).2.list settings spot (p.identify settings spot).1).entitle spot) = _
  rw [list_eq, entitle_eq]
  simp only [htoc, htitle]

end Progress

/-! ## Visits one after the other -/

section Issue

variable (settings : RenderSettings)

/-- The identifiers generated for the headings of a page, and the record of issued
    identifiers afterwards. -/
def issue (ids : HeadingIds) (spots : List HeadingSpot) : List (List Char) × HeadingIds :=
  ids.generateAll (askedTexts settings spots)

/-- The headings of a page with their identifiers, when the given ones have been
    issued before. -/
def identified (ids : HeadingIds) (spots : List HeadingSpot) :
    List (HeadingSpot × Option String) :=
  named ((issue settings ids spots).1.map String.ofList) spots

theorem issue_nil (ids : HeadingIds) : issue settings ids [] = ([], ids) := by
  unfold issue askedTexts
  split <;> rfl

/-- A heading of its own identifier asks for none. -/
theorem askedTexts_cons_of_some {spot : HeadingSpot} {id : String} (h : spot.ownId? = some id)
    (rest : List HeadingSpot) : askedTexts settings (spot :: rest) = askedTexts settings rest := by
  unfold askedTexts
  rw [List.filter_cons_of_neg (by simp [h])]

/-- Any other heading asks for one first, if there are to be any. -/
theorem askedTexts_cons_of_none {spot : HeadingSpot} (h : spot.ownId? = none)
    (hauto : settings.autoIds = true) (rest : List HeadingSpot) :
    askedTexts settings (spot :: rest) = spot.rawText.toList :: askedTexts settings rest := by
  unfold askedTexts
  rw [if_pos hauto, if_pos hauto, List.filter_cons_of_pos (by simp [h]), List.map_cons]

theorem askedTexts_of_not_auto (hauto : settings.autoIds = false) (spots : List HeadingSpot) :
    askedTexts settings spots = [] := by
  unfold askedTexts
  rw [if_neg (by simp [hauto])]

/-- What the first of several headings is given, and what is left for the others. -/
theorem identified_cons (p : Progress) (spot : HeadingSpot) (rest : List HeadingSpot) :
    identified settings p.ids (spot :: rest)
        = (spot, (p.identify settings spot).1)
          :: identified settings (p.identify settings spot).2.ids rest ∧
      (issue settings p.ids (spot :: rest)).2
        = (issue settings (p.identify settings spot).2.ids rest).2 := by
  unfold identified issue
  rw [named]
  cases hid : spot.ownId? with
  | some id =>
    rw [askedTexts_cons_of_some settings hid, Progress.identify_of_some settings hid]
    exact ⟨rfl, rfl⟩
  | none =>
    rw [Progress.identify_of_none settings hid]
    cases hauto : settings.autoIds with
    | true =>
      rw [askedTexts_cons_of_none settings hid hauto, if_pos rfl]
      exact ⟨rfl, rfl⟩
    | false =>
      rw [askedTexts_of_not_auto settings hauto, askedTexts_of_not_auto settings hauto,
        if_neg (by simp)]
      exact ⟨rfl, rfl⟩

/-- Headings of several pages are given identifiers as if they were those of one. -/
theorem identified_append (ids : HeadingIds) (a b : List HeadingSpot) :
    identified settings ids (a ++ b)
        = identified settings ids a ++ identified settings (issue settings ids a).2 b ∧
      (issue settings ids (a ++ b)).2 = (issue settings (issue settings ids a).2 b).2 := by
  induction a generalizing ids with
  | nil =>
    rw [List.nil_append, issue_nil]
    exact ⟨rfl, rfl⟩
  | cons spot rest ih =>
    -- A page is started for the sake of its identifiers alone: nothing else of it is used.
    obtain ⟨hall, hissued⟩ := identified_cons settings (.start ids) spot (rest ++ b)
    obtain ⟨hhere, hissued'⟩ := identified_cons settings (.start ids) spot rest
    obtain ⟨hrest, hlater⟩ := ih ((Progress.start ids).identify settings spot).2.ids
    have hstart : (Progress.start ids).ids = ids := rfl
    rw [hstart] at hall hissued hhere hissued'
    rw [List.cons_append, hall, hissued, hhere, hissued', hrest, hlater]
    exact ⟨rfl, rfl⟩

/-- **The visits of one page.** The generator is asked for the identifiers of the
    headings without one, once each and in the order of the visits; the table of
    contents and the title follow from the headings and their identifiers. -/
theorem Progress.visitAll_eq (spots : List HeadingSpot) (p : Progress) :
    visitAll settings spots p =
      ((identified settings p.ids spots).map Prod.snd,
        ⟨(issue settings p.ids spots).2, p.toc ++ tocOf settings (identified settings p.ids spots),
          p.title.or (titleOf (identified settings p.ids spots))⟩) := by
  induction spots generalizing p with
  | nil =>
    have hnamed : identified settings p.ids [] = [] := by
      unfold identified named
      rfl
    rw [visitAll, hnamed, issue_nil]
    simp [tocOf, titleOf]
  | cons spot rest ih =>
    obtain ⟨hheadings, hissued⟩ := identified_cons settings p spot rest
    rw [visitAll, ih, visit_eq, hheadings, hissued]
    -- The entry and the title of the first heading come before those of the rest.
    have htoc : tocOf settings ((spot, (p.identify settings spot).1)
          :: identified settings (p.identify settings spot).2.ids rest)
        = (spot.listing? settings (p.identify settings spot).1).toList
          ++ tocOf settings (identified settings (p.identify settings spot).2.ids rest) := by
      unfold tocOf
      rw [List.filterMap_cons]
      cases spot.listing? settings (p.identify settings spot).1 <;> rfl
    have htitle : titleOf ((spot, (p.identify settings spot).1)
          :: identified settings (p.identify settings spot).2.ids rest)
        = spot.title?.or (titleOf (identified settings (p.identify settings spot).2.ids rest)) := by
      unfold titleOf
      rw [List.findSome?_cons]
      cases spot.title? <;> rfl
    rw [htoc, htitle, List.map_cons, List.append_assoc, Option.or_assoc]

end Issue

/-! ## Runs over documents -/

/-- The table of contents and the title of a page. -/
structure Outline where
  toc : List TocEntry
  title : Option String

/-- What a page shows of its headings apart from its HTML. -/
def Page.outline (page : Page) : Outline := ⟨page.toc, page.title⟩

/-- Renders documents one after the other. A document that has no page is passed
    over; the identifiers issued for it stay issued. -/
def Renderer.renderAll (r : Renderer) :
    List Node → HeadingIds → List (Except RenderError Page) × HeadingIds
  | [], ids => ([], ids)
  | document :: rest, ids =>
    let here := r.renderWithIds document ids
    let later := r.renderAll rest here.2
    (here.1 :: later.1, later.2)

/-- The outline of a document, given its headings with their identifiers, or the
    failure that ends it. -/
def Node.outline (settings : RenderSettings) (highlighter : Highlighter) (document : Node)
    (headings : List (HeadingSpot × Option String)) : Except RenderError Outline :=
  match document.firstFailure? highlighter with
  | some e => .error e
  | none => .ok ⟨tocOf settings headings, titleOf headings⟩

/-- One document of a run. -/
theorem Renderer.outline_renderWithIds (r : Renderer) (document : Node) (ids : HeadingIds) :
    (r.renderWithIds document ids).1.map Page.outline
        = document.outline r.settings r.highlighter
            (identified r.settings ids (document.reached r.highlighter)) ∧
      (r.renderWithIds document ids).2
        = (issue r.settings ids (document.reached r.highlighter)).2 := by
  obtain ⟨html, hpage⟩ := r.renderWithIds_eq document ids
  rw [hpage, Progress.visitAll_eq, Node.outline]
  cases document.firstFailure? r.highlighter with
  | some e => exact ⟨rfl, rfl⟩
  | none => exact ⟨by simp [Except.map, Page.outline, Progress.start], rfl⟩

/-- **The headings of a run over documents.** Visited are the headings of each
    document up to its first failure. Over the whole run the generator is asked once,
    in the order of the visits, for each of them that has no identifier of its author,
    if identifiers are generated at all. The answers go to these headings in the same
    order, so that every document has its share of the headings with identifiers, and
    the table of contents and the title of each page are read off its share. -/
theorem Renderer.outlines_renderAll (r : Renderer) (documents : List Node) (ids : HeadingIds) :
    let visited := documents.map (Node.reached r.highlighter)
    let generated := ids.generateAll (askedTexts r.settings visited.flatten)
    (r.renderAll documents ids).2 = generated.2 ∧
      ∃ shares : List (List (HeadingSpot × Option String)),
        shares.map (List.map Prod.fst) = visited ∧
        shares.flatten = named (generated.1.map String.ofList) visited.flatten ∧
        (r.renderAll documents ids).1.map (Except.map Page.outline)
          = List.zipWith (Node.outline r.settings r.highlighter) documents shares := by
  induction documents generalizing ids with
  | nil =>
    have hissued := congrArg Prod.snd (issue_nil r.settings ids)
    exact ⟨hissued.symm, [], rfl, by simp [named], rfl⟩
  | cons document rest ih =>
    intro visited generated
    obtain ⟨hpage, hids⟩ := r.outline_renderWithIds document ids
    obtain ⟨hlater, shares, hvisited, hshares, houtlines⟩ := ih (r.renderWithIds document ids).2
    obtain ⟨hsplit, hissued⟩ := identified_append r.settings ids
      (document.reached r.highlighter) (rest.map (Node.reached r.highlighter)).flatten
    -- What is left of the run starts from the identifiers issued so far, page or no page.
    rw [hids] at hlater hshares houtlines
    refine ⟨?_, identified r.settings ids (document.reached r.highlighter) :: shares,
      ?_, ?_, ?_⟩
    · rw [renderAll, hids, hlater]
      exact hissued.symm
    · rw [List.map_cons, hvisited, identified, map_fst_named]
      rfl
    · rw [List.flatten_cons, hshares]
      exact hsplit.symm
    · rw [renderAll, hids, List.map_cons, List.zipWith_cons_cons, hpage, houtlines]

end DocSite
