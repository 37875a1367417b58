/-
  DocSite.Proofs.Page.Headings

  The identifiers of the headings of a page: which headings are visited, in which
  order, and which identifier each of them has in the HTML. Identifiers have two
  sources, the author and the generator, and the generator does not know those of
  the author.
-/
import DocSite.Proofs.Except
import DocSite.Proofs.Heading.Ids
import DocSite.Proofs.Html.Headings
import DocSite.Proofs.Page.Pieces
import DocSite.Proofs.Page.Settling
import DocSite.Proofs.Page.Sound
import Mathlib.Data.List.Nodup

namespace DocSite

open DocSite.Html DocSite.Text

/-! ## Visits -/

/-- The heading that a piece of a draft is, wherever on its line it stands. -/
def Draft.headingSpots : Draft → List HeadingSpot
  | .heading spot _ => [{ spot with indent := 0 }]
  | _ => []

theorem Draft.readsContent_headingSpots : ReadsContent headingSpots where
  space piece h := by
    cases piece with
    | heading spot body => cases h
    | _ => rfl
  element _ _ _ := rfl
  mailLabel _ _ := rfl
  heading _ _ := rfl

/-- The headings of a document, in the order in which they are visited. -/
def Node.headingSpots (document : Node) : List HeadingSpot :=
  document.pieces.flatMap Draft.headingSpots

namespace Progress

variable (settings : RenderSettings)

/-- Visits headings one after the other. -/
def visitAll : List HeadingSpot → Progress → List (Option String) × Progress
  | [], p => ([], p)
  | spot :: rest, p =>
    let here := p.visit settings spot
    let later := visitAll rest here.2
    (here.1 :: later.1, later.2)

theorem visitAll_append (a b : List HeadingSpot) (p : Progress) :
    visitAll settings (a ++ b) p
      = ((visitAll settings a p).1 ++ (visitAll settings b (visitAll settings a p).2).1,
        (visitAll settings b (visitAll settings a p).2).2) := by
  induction a generalizing p with
  | nil => rfl
  | cons spot rest ih => simp only [List.cons_append, visitAll, ih]

theorem visit_ids (spot : HeadingSpot) (p : Progress) :
    (p.visit settings spot).2.ids = (p.identify settings spot).2.ids := by
  have hentitle : ∀ q : Progress, (q.entitle spot).ids = q.ids := by
    intro q
    unfold entitle
    split <;> rfl
  have hlist : ∀ (id : Option String) (q : Progress), (q.list settings spot id).ids = q.ids := by
    intro id q
    unfold Progress.list
    split
    · split <;> rfl
    · rfl
  rw [visit, hentitle, hlist]

/-- Whatever a visit records in the table of contents has the identifier that the
    heading has. -/
theorem mem_toc_visit {spot : HeadingSpot} {p : Progress} {entry : TocEntry}
    (h : entry ∈ (p.visit settings spot).2.toc) :
    entry ∈ p.toc ∨ (p.visit settings spot).1 = some entry.id := by
  -- Only listing a heading touches the table of contents.
  have hentitle : ∀ q : Progress, (q.entitle spot).toc = q.toc := by
    intro q
    unfold entitle
    split <;> rfl
  have hidentify : (p.identify settings spot).2.toc = p.toc := by
    unfold identify
    split
    · rfl
    · split <;> rfl
  rw [visit, hentitle] at h
  rw [visit]
  unfold Progress.list at h
  split at h
  · next id hid =>
    split at h
    · rcases List.mem_append.mp h with h | h
      · exact .inl (hidentify ▸ h)
      · refine .inr ?_
        rw [List.mem_singleton.mp h]
        exact hid
    · exact .inl (hidentify ▸ h)
  · exact .inl (hidentify ▸ h)

theorem mem_toc_visitAll {spots : List HeadingSpot} {p : Progress} {entry : TocEntry}
    (h : entry ∈ (visitAll settings spots p).2.toc) :
    entry ∈ p.toc ∨ some entry.id ∈ (visitAll settings spots p).1 := by
  induction spots generalizing p with
  | nil => exact .inl h
  | cons spot rest ih =>
    rcases ih h with h | h
    · rcases mem_toc_visit settings h with h | h
      · exact .inl h
      · exact .inr (List.mem_cons.mpr (.inl h.symm))
    · exact .inr (List.mem_cons_of_mem _ h)

end Progress

/-! ## Headings in the HTML -/

/-- Whatever the attributes of a heading are, its element has the identifier that
    the heading has been given. -/
theorem get?_id_headingElement (settings : RenderSettings) (spot : HeadingSpot) (p : Progress)
    (body : List Html) :
    (headingElement settings spot (p.visit settings spot).1 body).attributes.get? "id"
      = (p.visit settings spot).1 := by
  cases hid : (p.visit settings spot).1 with
  | some id => rw [headingElement, Attributes.get?_insert, if_pos rfl]
  | none =>
    have hown : (p.identify settings spot).1 = none := hid
    unfold Progress.identify at hown
    split at hown
    · cases hown
    · next hnone => exact hnone

/-- A document about which nothing is assumed but its mail addresses. -/
def Admission.anything (mail : String → Prop) : Admission where
  key _ := True
  reference _ := True
  raw _ := True
  mail := mail
  key_of_mem _ _ := trivial

/-- The links of a document lead to no mail address that holds a tag. -/
def Node.HasPlainAddresses (document : Node) : Prop :=
  ∀ n ∈ document.subtree, n.kind = .link → ∀ address,
    Admission.mailAddress? n.attributes = some address → '<' ∉ address.toList

theorem Admission.throughout_anything (document : Node) :
    document.Throughout (Admission.anything fun _ => True).Admits := by
  intro n hn
  refine ⟨fun _ _ => trivial, ?_⟩
  split <;> first | trivial | exact fun _ _ => trivial

theorem Node.HasPlainAddresses.throughout {document : Node} (h : document.HasPlainAddresses) :
    document.Throughout (Admission.anything fun address => '<' ∉ address.toList).Admits := by
  intro n hn
  refine ⟨fun _ _ => trivial, ?_⟩
  split <;> first | trivial | exact h n hn ‹_›

/-- Only headings settle to elements of headings. -/
theorem headings_of_sound {a : Admission} {html : Html} (h : (Draft.settled html).Sound a) :
    html.headings = [] := by
  cases html with
  | element tag attributes body => exact h.elim
  | _ => rfl

section Settles

variable {settings : RenderSettings} {highlighter : Highlighter} {p q : Progress}
  {draft : List Draft} {html : List Html} {mail : String → Prop}

/-- No element of the layout is a heading. -/
theorem headingLevel?_layoutTag : ∀ tag ∈ layoutTags, headingLevel? tag = none := by
  decide

/-- What a draft settles to has the headings that are visited, in the order of the
    visits, with the identifiers given then. Only the headings in the label of a
    mail link may be missing, if the label shows an address that holds a tag. -/
theorem Settles.headingIds (h : Settles settings highlighter p draft html q)
    (hdraft : Draft.SoundAll (.anything mail) draft) :
    (Progress.visitAll settings (Draft.collectAll Draft.headingSpots draft) p).2 = q ∧
      (headingIds html).Sublist
        (Progress.visitAll settings (Draft.collectAll Draft.headingSpots draft) p).1 ∧
      ((∀ address, mail address → '<' ∉ address.toList) → headingIds html
        = (Progress.visitAll settings (Draft.collectAll Draft.headingSpots draft) p).1) := by
  induction h with
  | nil p => exact ⟨rfl, .slnil, fun _ => rfl⟩
  | settled html _ ih =>
    obtain ⟨hhtml, hrest⟩ := Draft.soundAll_cons.mp hdraft
    simp only [Draft.collectAll, Draft.collect, Draft.headingSpots, List.nil_append]
    rw [Html.headingIds, headingsAll, headings_of_sound hhtml, List.nil_append]
    exact ih hrest
  | element tag attributes _ _ ihbody ihrest =>
    obtain ⟨⟨htag, -, hbody⟩, hrest⟩ := Draft.soundAll_cons.mp hdraft
    obtain ⟨rfl, hsub, heq⟩ := ihbody hbody
    obtain ⟨rfl, hsub', heq'⟩ := ihrest hrest
    simp only [Draft.collectAll, Draft.collect, Draft.headingSpots, List.nil_append]
    rw [Html.headingIds, headingsAll, headings_element (headingLevel?_layoutTag tag htag),
      List.map_append, Progress.visitAll_append]
    exact ⟨rfl, hsub.append hsub', fun hmail => by rw [← heq hmail, ← heq' hmail]; rfl⟩
  | code spot _ _ ih =>
    simp only [Draft.collectAll, Draft.collect, Draft.headingSpots, List.nil_append]
    exact ih (Draft.soundAll_cons.mp hdraft).2
  | @heading p _ _ _ _ inner _ spot _ _ ihbody ihrest =>
    obtain ⟨⟨-, hbody⟩, hrest⟩ := Draft.soundAll_cons.mp hdraft
    obtain ⟨rfl, hsub, heq⟩ := ihbody hbody
    obtain ⟨rfl, hsub', heq'⟩ := ihrest hrest
    have hvisit : p.visit settings { spot with indent := 0 } = p.visit settings spot := rfl
    rw [Draft.collectAll, Draft.collect, Draft.headingSpots, List.cons_append, List.nil_append,
      List.cons_append, Progress.visitAll, hvisit, Html.headingIds, headingsAll_append,
      headingsAll_headingHtml, List.cons_append, List.map_cons, List.map_append,
      get?_id_headingElement, Progress.visitAll_append]
    exact ⟨rfl, (hsub.append hsub').cons_cons _,
      fun hmail => by rw [← heq hmail, ← heq' hmail]; rfl⟩
  | mailShown address _ hshown _ ihbody ihrest =>
    obtain ⟨⟨haddress, hbody⟩, hrest⟩ := Draft.soundAll_cons.mp hdraft
    obtain ⟨rfl, -, heq⟩ := ihbody hbody
    obtain ⟨rfl, hsub', heq'⟩ := ihrest hrest
    simp only [Draft.collectAll, Draft.collect, Draft.headingSpots, List.nil_append]
    rw [Progress.visitAll_append]
    refine ⟨rfl, hsub'.trans (List.sublist_append_right _ _), fun hmail => ?_⟩
    -- The label is left out, and shows an address without a tag: no heading was in it.
    have hlabel : _ = [] := headingsAll_eq_nil (hshown ▸ hmail address haddress)
    rw [← heq hmail, ← heq' hmail, Html.headingIds, Html.headingIds, Html.headingIds, hlabel]
    rfl
  | mailKept address _ _ _ ihbody ihrest =>
    obtain ⟨⟨-, hbody⟩, hrest⟩ := Draft.soundAll_cons.mp hdraft
    obtain ⟨rfl, hsub, heq⟩ := ihbody hbody
    obtain ⟨rfl, hsub', heq'⟩ := ihrest hrest
    simp only [Draft.collectAll, Draft.collect, Draft.headingSpots, List.nil_append]
    rw [Html.headingIds, headingsAll_append, List.map_append, Progress.visitAll_append]
    exact ⟨rfl, hsub.append hsub', fun hmail => by rw [← heq hmail, ← heq' hmail]; rfl⟩

/-- Every heading of the HTML is one that has been visited, and if it has an
    identifier and stands high enough, it ends with a link to itself. -/
theorem Settles.getLast?_body (h : Settles settings highlighter p draft html q)
    (hdraft : Draft.SoundAll (.anything mail) draft) :
    ∀ heading ∈ headingsAll html, ∀ id, heading.attributes.get? "id" = some id →
      heading.level ≤ settings.maxAnchoredLevel → heading.body.getLast? = some (permalink id) := by
  induction h with
  | nil p => exact fun _ hmem => absurd hmem List.not_mem_nil
  | settled html _ ih =>
    obtain ⟨hhtml, hrest⟩ := Draft.soundAll_cons.mp hdraft
    rw [headingsAll, headings_of_sound hhtml, List.nil_append]
    exact ih hrest
  | element tag attributes _ _ ihbody ihrest =>
    obtain ⟨⟨htag, -, hbody⟩, hrest⟩ := Draft.soundAll_cons.mp hdraft
    rw [headingsAll, headings_element (headingLevel?_layoutTag tag htag)]
    exact List.forall_mem_append.mpr ⟨ihbody hbody, ihrest hrest⟩
  | code spot _ _ ih => exact ih (Draft.soundAll_cons.mp hdraft).2
  | @heading p _ _ _ _ inner _ spot _ _ ihbody ihrest =>
    obtain ⟨⟨-, hbody⟩, hrest⟩ := Draft.soundAll_cons.mp hdraft
    rw [headingsAll_append, headingsAll_headingHtml]
    refine List.forall_mem_append.mpr ⟨List.forall_mem_cons.mpr ⟨?_, ihbody hbody⟩, ihrest hrest⟩
    -- The identifier is the one of the visit, and the link behind the content has the same.
    intro id hid
    rw [get?_id_headingElement] at hid
    rw [hid, headingElement]
    intro hlevel
    rw [if_pos hlevel, List.getLast?_concat]
  | mailShown address _ _ _ _ ihrest => exact ihrest (Draft.soundAll_cons.mp hdraft).2
  | mailKept address _ _ _ ihbody ihrest =>
    obtain ⟨⟨-, hbody⟩, hrest⟩ := Draft.soundAll_cons.mp hdraft
    rw [headingsAll_append]
    exact List.forall_mem_append.mpr ⟨ihbody hbody, ihrest hrest⟩

end Settles

/-! ## Two sources of identifiers -/

/-- The identifiers that headings have of their author. -/
def explicitIds (spots : List HeadingSpot) : List String :=
  spots.filterMap (·.attributes.get? "id")

/-- The identifiers that are generated for headings without one. -/
def generatedIds (ids : HeadingIds) (spots : List HeadingSpot) : List String :=
  let unnamed := spots.filter fun spot => (spot.attributes.get? "id").isNone
  (ids.generateAll (unnamed.map (·.rawText.toList))).1.map String.ofList

/-- If identifiers are generated, every heading has its own or a generated one. -/
theorem Progress.visitAll_perm {settings : RenderSettings} (hauto : settings.autoIds = true)
    (spots : List HeadingSpot) (p : Progress) :
    (visitAll settings spots p).1.Perm
      ((explicitIds spots ++ generatedIds p.ids spots).map some) := by
  induction spots generalizing p with
  | nil => exact .nil
  | cons spot rest ih =>
    have hlater := ih (p.visit settings spot).2
    -- A heading of its own identifier leaves the generator as it is.
    have hhere : (p.visit settings spot).1 = (p.identify settings spot).1 := rfl
    rw [visit_ids] at hlater
    rw [visitAll]
    dsimp only
    cases hid : spot.attributes.get? "id" with
    | some id =>
      have hvisit : p.identify settings spot = (some id, p) := by
        rw [identify, hid]
      have hexplicit : explicitIds (spot :: rest) = id :: explicitIds rest :=
        List.filterMap_cons_some hid
      have hgenerated : generatedIds p.ids (spot :: rest) = generatedIds p.ids rest := by
        rw [generatedIds, List.filter_cons_of_neg (by simp [hid])]
        rfl
      rw [hvisit] at hlater
      rw [hexplicit, hgenerated, hhere, hvisit]
      exact hlater.cons (some id)
    | none =>
      have hvisit : p.identify settings spot
          = (some (String.ofList (p.ids.generate spot.rawText.toList).1),
            { p with ids := (p.ids.generate spot.rawText.toList).2 }) := by
        rw [identify, hid]
        simp only [hauto, if_true]
      have hexplicit : explicitIds (spot :: rest) = explicitIds rest :=
        List.filterMap_cons_none hid
      have hgenerated : generatedIds p.ids (spot :: rest)
          = String.ofList (p.ids.generate spot.rawText.toList).1
            :: generatedIds (p.ids.generate spot.rawText.toList).2 rest := by
        rw [generatedIds, List.filter_cons_of_pos (by simp [hid])]
        rfl
      rw [hvisit] at hlater
      rw [hexplicit, hgenerated, hhere, hvisit, List.map_append, List.map_cons]
      rw [List.map_append] at hlater
      exact (hlater.cons _).trans List.perm_middle.symm

theorem nodup_generatedIds (spots : List HeadingSpot) : (generatedIds .empty spots).Nodup :=
  List.Nodup.map (fun _ _ h => String.ofList_injective h) (HeadingIds.nodup_generateAll _)

/-- The identifiers of all headings of a document, in the order of the visits. -/
def Node.headingIds (settings : RenderSettings) (document : Node) : List (Option String) :=
  (Progress.visitAll settings document.headingSpots (.start .empty)).1

/-- Identifiers of both sources are distinct exactly if the sources are disjoint. -/
theorem Node.nodup_headingIds_iff {settings : RenderSettings} (hauto : settings.autoIds = true)
    {document : Node} (hexplicit : (explicitIds document.headingSpots).Nodup) :
    (document.headingIds settings).Nodup
      ↔ ∀ id ∈ generatedIds .empty document.headingSpots,
          id ∉ explicitIds document.headingSpots := by
  have hperm := Progress.visitAll_perm hauto document.headingSpots (.start .empty)
  have hinjective : Function.Injective (some : String → Option String) := fun _ _ => Option.some.inj
  rw [headingIds, hperm.nodup_iff, List.nodup_map_iff hinjective, List.nodup_append]
  constructor
  · intro h id hgenerated hmem
    exact h.2.2 id hmem id hgenerated rfl
  · intro h
    refine ⟨hexplicit, nodup_generatedIds document.headingSpots, ?_⟩
    rintro id hmem _ hgenerated rfl
    exact h id hgenerated hmem

/-- What is recorded in the table of contents are identifiers of headings. -/
theorem Node.mem_headingIds_of_toc {settings : RenderSettings} {document : Node}
    {entry : TocEntry}
    (h : entry ∈ (Progress.visitAll settings document.headingSpots (.start .empty)).2.toc) :
    some entry.id ∈ document.headingIds settings := by
  rcases Progress.mem_toc_visitAll settings h with hstart | hmem
  · exact absurd hstart List.not_mem_nil
  · exact hmem

/-! ## Pages of documents -/

/-- **Headings are addressable as far as the author's identifiers allow.** If these
    are distinct, the identifiers of all visited headings are distinct exactly if no
    generated one is among them. Then every entry of the table of contents and every
    permalink leads to one heading of the page; a heading that is visited is missing
    on the page only in the label of a link to an address that holds a tag. -/
theorem Renderer.headings_addressable_iff (r : Renderer) (document : Node) (page : Page)
    (hauto : r.settings.autoIds = true)
    (hexplicit : (explicitIds document.headingSpots).Nodup)
    (hpage : r.render document = .ok page) :
    ((document.headingIds r.settings).Nodup
      ↔ ∀ id ∈ generatedIds .empty document.headingSpots,
          id ∉ explicitIds document.headingSpots) ∧
    ∃ html progress,
      Settles r.settings r.highlighter (.start .empty) (Draft.ofNode r.settings.baseUrl document)
        html progress ∧
      page = ⟨printAll html, progress.toc, progress.title⟩ ∧
      (headingIds html).Sublist (document.headingIds r.settings) ∧
      ((document.headingIds r.settings).Nodup →
        (∀ entry ∈ page.toc, (document.headingIds r.settings).count (some entry.id) = 1) ∧
        (document.HasPlainAddresses →
          headingIds html = document.headingIds r.settings ∧
          Addressable r.settings.maxAnchoredLevel page.toc html)) := by
  refine ⟨Node.nodup_headingIds_iff hauto hexplicit, ?_⟩
  obtain ⟨html, progress, hsettles, rfl, -⟩ := settles_of_renderWithIds hpage
  have hspots : Draft.collectAll Draft.headingSpots (Draft.ofNode r.settings.baseUrl document)
      = document.headingSpots :=
    Layout.collectAll_node Draft.readsContent_headingSpots r.settings.baseUrl document 0
  have hsound := Layout.sound_node r.settings.baseUrl (Admission.throughout_anything document) 0
  obtain ⟨hprogress, hsublist, -⟩ := hsettles.headingIds hsound
  rw [hspots] at hprogress hsublist
  refine ⟨html, progress, hsettles, rfl, hsublist, fun hnodup => ?_⟩
  have hlisted : ∀ entry ∈ progress.toc,
      (document.headingIds r.settings).count (some entry.id) = 1 := by
    intro entry hentry
    rw [← hprogress] at hentry
    exact List.count_eq_one_of_mem hnodup (Node.mem_headingIds_of_toc hentry)
  refine ⟨hlisted, fun hplain => ?_⟩
  have hids : headingIds html = document.headingIds r.settings := by
    have hsound := Layout.sound_node r.settings.baseUrl hplain.throughout 0
    obtain ⟨-, -, hids⟩ := hsettles.headingIds hsound
    rw [hids fun _ haddress => haddress, hspots]
    rfl
  refine ⟨hids, by rw [hids]; exact hlisted, fun heading hheading hlevel => ?_⟩
  have hmem : heading.attributes.get? "id" ∈ document.headingIds r.settings := by
    rw [← hids]
    exact List.mem_map_of_mem (f := fun h => h.attributes.get? "id") hheading
  -- Identifiers are generated, so that no heading is without one.
  have hperm := Progress.visitAll_perm hauto document.headingSpots (.start .empty)
  obtain ⟨id, -, hid⟩ := List.mem_map.mp (hperm.mem_iff.mp hmem)
  refine ⟨id, hsettles.getLast?_body hsound heading hheading id hid.symm hlevel, ?_⟩
  rw [hids, hid]
  exact List.count_eq_one_of_mem hnodup hmem

/-- Two headings, of which the second has an identifier of its author. -/
def Node.setupAnd (id : String) : Node :=
  .ofKind .document
    [.heading 2 [.ofText "Setup"], (Node.heading 2 [.ofText "First steps"]).withAttribute "id" id]

theorem Renderer.headings_addressable_steps :
    ∃ page, (Renderer.mk {} .plain).render (.setupAnd "steps") = .ok page ∧
      ((Node.setupAnd "steps").headingIds {}).Nodup ∧
      (∀ entry ∈ page.toc, ((Node.setupAnd "steps").headingIds {}).count (some entry.id) = 1) := by
  have hexplicit : (explicitIds (Node.setupAnd "steps").headingSpots).Nodup := by decide +kernel
  have hok : ((Renderer.mk {} .plain).render (.setupAnd "steps")).isOk := by decide +kernel
  obtain ⟨page, hpage⟩ := isOk_iff.mp hok
  obtain ⟨hiff, _, _, _, _, _, hcount⟩ :=
    headings_addressable_iff ⟨{}, .plain⟩ (.setupAnd "steps") page rfl hexplicit hpage
  have hnodup := hiff.mpr (by decide +kernel)
  exact ⟨page, hpage, hnodup, (hcount hnodup).1⟩

/-- The generator issues an identifier that the author has given to another
    heading. -/
theorem Renderer.headings_not_addressable_setup :
    (explicitIds (Node.setupAnd "setup").headingSpots).Nodup ∧
      ¬((Node.setupAnd "setup").headingIds {}).Nodup ∧
      ((Renderer.mk {} .plain).render (.setupAnd "setup")).toOption.map
        (fun page => page.toc.map (·.id)) = some ["setup", "setup"] := by
  refine ⟨?_, ?_, ?_⟩ <;> decide +kernel

end DocSite
