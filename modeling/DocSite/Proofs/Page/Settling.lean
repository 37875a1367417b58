/-
  DocSite.Proofs.Page.Settling

  Settling without its monad: the pages that a draft can become, as a relation
  between what has been recorded before, the draft, its HTML and what has been
  recorded afterwards. Statements about every page are proved by induction on
  this relation; that settling yields nothing else is shown here once.
-/
import DocSite.Page.Render
import DocSite.Proofs.Html.Reading

namespace DocSite

/-- A draft settles to HTML, and the progress of the page with it. A draft is
    taken as a whole, piece by piece from the left, so that one relation covers
    pieces and what is inside them. -/
inductive Settles (settings : RenderSettings) (highlighter : Highlighter) :
    Progress → List Draft → List Html → Progress → Prop
  | nil (p : Progress) : Settles settings highlighter p [] [] p
  | settled {p q : Progress} {rest : List Draft} {later : List Html} (html : Html) :
      Settles settings highlighter p rest later q →
      Settles settings highlighter p (.settled html :: rest) (html :: later) q
  | element {p q r : Progress} {body rest : List Draft} {inner later : List Html}
      (tag : String) (attributes : Attributes) :
      Settles settings highlighter p body inner q →
      Settles settings highlighter q rest later r →
      Settles settings highlighter p (.element tag attributes body :: rest)
        (.element tag attributes inner :: later) r
  | code {p q : Progress} {rest : List Draft} {later : List Html} (spot : CodeSpot)
      {html : String} :
      spot.highlight highlighter = .ok html →
      Settles settings highlighter p rest later q →
      Settles settings highlighter p (.code spot :: rest) (.raw html :: later) q
  | heading {p q r : Progress} {body rest : List Draft} {inner later : List Html}
      (spot : HeadingSpot) :
      Settles settings highlighter (p.visit settings spot).2 body inner q →
      Settles settings highlighter q rest later r →
      Settles settings highlighter p (.heading spot body :: rest)
        (headingHtml settings spot (p.visit settings spot).1 inner ++ later) r
  | mailShown {p q r : Progress} {body rest : List Draft} {label later : List Html}
      (address : String) :
      Settles settings highlighter p body label q → Html.printAll label = address →
      Settles settings highlighter q rest later r →
      Settles settings highlighter p (.mailLabel address body :: rest)
        (.raw (String.ofList (Html.obfuscate address.toList)) :: later) r
  | mailKept {p q r : Progress} {body rest : List Draft} {label later : List Html}
      (address : String) :
      Settles settings highlighter p body label q → Html.printAll label ≠ address →
      Settles settings highlighter q rest later r →
      Settles settings highlighter p (.mailLabel address body :: rest) (label ++ later) r

/-- Drafts that settle one after the other settle as one. -/
theorem Settles.append {settings : RenderSettings} {highlighter : Highlighter} {p q r : Progress}
    {a b : List Draft} {here later : List Html} (ha : Settles settings highlighter p a here q)
    (hb : Settles settings highlighter q b later r) :
    Settles settings highlighter p (a ++ b) (here ++ later) r := by
  induction ha with
  | nil p => exact hb
  | settled html _ ih => exact .settled html (ih hb)
  | element tag attributes hbody _ _ ih => exact .element tag attributes hbody (ih hb)
  | code spot hhtml _ ih => exact .code spot hhtml (ih hb)
  | heading spot hbody _ _ ih =>
    rw [List.append_assoc]
    exact .heading spot hbody (ih hb)
  | mailShown address hlabel hshown _ _ ih => exact .mailShown address hlabel hshown (ih hb)
  | mailKept address hlabel hkept _ _ ih =>
    rw [List.append_assoc]
    exact .mailKept address hlabel hkept (ih hb)

/-- A draft of two parts settles part by part. -/
theorem Settles.of_append {settings : RenderSettings} {highlighter : Highlighter} {p r : Progress}
    {a b : List Draft} {html : List Html} (h : Settles settings highlighter p (a ++ b) html r) :
    ∃ here later q, Settles settings highlighter p a here q ∧
      Settles settings highlighter q b later r ∧ html = here ++ later := by
  -- On the first part: its first piece settles by the step by which the whole begins.
  induction a generalizing p html with
  | nil => exact ⟨[], html, p, .nil p, h, rfl⟩
  | cons piece rest ih =>
    rw [List.cons_append] at h
    cases h with
    | settled html hrest =>
      obtain ⟨here, later, q, ha, hb, rfl⟩ := ih hrest
      exact ⟨html :: here, later, q, .settled html ha, hb, rfl⟩
    | element tag attributes hbody hrest =>
      obtain ⟨here, later, q, ha, hb, rfl⟩ := ih hrest
      exact ⟨_ :: here, later, q, .element tag attributes hbody ha, hb, rfl⟩
    | code spot hhtml hrest =>
      obtain ⟨here, later, q, ha, hb, rfl⟩ := ih hrest
      exact ⟨_ :: here, later, q, .code spot hhtml ha, hb, rfl⟩
    | heading spot hbody hrest =>
      obtain ⟨here, later, q, ha, hb, rfl⟩ := ih hrest
      exact ⟨_, later, q, .heading spot hbody ha, hb, (List.append_assoc ..).symm⟩
    | mailShown address hlabel hshown hrest =>
      obtain ⟨here, later, q, ha, hb, rfl⟩ := ih hrest
      exact ⟨_ :: here, later, q, .mailShown address hlabel hshown ha, hb, rfl⟩
    | mailKept address hlabel hkept hrest =>
      obtain ⟨here, later, q, ha, hb, rfl⟩ := ih hrest
      exact ⟨_, later, q, .mailKept address hlabel hkept ha, hb, (List.append_assoc ..).symm⟩

/-! ## Pieces on their own -/

namespace Settles

variable {settings : RenderSettings} {highlighter : Highlighter} {p q : Progress}
  {body : List Draft} {html : List Html}

theorem of_settled {settled : Html}
    (h : Settles settings highlighter p [.settled settled] html q) : html = [settled] := by
  cases h with
  | settled _ hnil =>
    cases hnil
    rfl

/-- An element settles with what is in it. -/
theorem of_element {tag : String} {attributes : Attributes}
    (h : Settles settings highlighter p [.element tag attributes body] html q) :
    ∃ inner, Settles settings highlighter p body inner q ∧
      html = [.element tag attributes inner] := by
  cases h with
  | element tag attributes hbody hnil =>
    cases hnil
    exact ⟨_, hbody, rfl⟩

/-- A heading has its identifier before its content is settled. -/
theorem of_heading {spot : HeadingSpot}
    (h : Settles settings highlighter p [.heading spot body] html q) :
    ∃ inner, Settles settings highlighter (p.visit settings spot).2 body inner q ∧
      html = headingHtml settings spot (p.visit settings spot).1 inner := by
  cases h with
  | heading spot hbody hnil =>
    cases hnil
    exact ⟨_, hbody, List.append_nil _⟩

/-- Code settles to what the highlighter makes of it. -/
theorem of_code {spot : CodeSpot} (h : Settles settings highlighter p [.code spot] html q) :
    ∃ output, spot.highlight highlighter = .ok output ∧ html = [.raw output] := by
  cases h with
  | code spot houtput hnil =>
    cases hnil
    exact ⟨_, houtput, rfl⟩

/-- A label is compared after it has been settled. -/
theorem of_mailLabel {address : String}
    (h : Settles settings highlighter p [.mailLabel address body] html q) :
    ∃ label, Settles settings highlighter p body label q ∧
      (Html.printAll label = address ∧
          html = [.raw (String.ofList (Html.obfuscate address.toList))] ∨
        Html.printAll label ≠ address ∧ html = label) := by
  cases h with
  | mailShown address hlabel hshown hnil =>
    cases hnil
    exact ⟨_, hlabel, .inl ⟨hshown, rfl⟩⟩
  | mailKept address hlabel hkept hnil =>
    cases hnil
    exact ⟨_, hlabel, .inr ⟨hkept, List.append_nil _⟩⟩

end Settles

/-- What stands around the content of a heading does not depend on the content. -/
theorem printAll_headingHtml (settings : RenderSettings) (spot : HeadingSpot)
    (id : Option String) : ∃ before after, ∀ body,
      Html.printAll (headingHtml settings spot id body)
        = before ++ Html.printAll body ++ after := by
  -- In a block there may be something behind the content, such as a permalink.
  have hblock : ∀ (tag : String) (attributes : Attributes) (last : List Html), ∃ before after,
      ∀ body, Html.printAll (Html.block tag attributes (body ++ last) spot.indent)
        = before ++ Html.printAll body ++ after := by
    intro tag attributes last
    refine ⟨(Html.pad spot.indent).print ++ Html.openTag tag attributes,
      Html.printAll last ++ Html.closeTag tag ++ Html.newline.print, fun body => ?_⟩
    simp only [Html.block, Html.printAll, Html.print, Html.printAll_append, String.append_assoc,
      String.append_empty]
  cases id with
  | none =>
    obtain ⟨before, after, hprint⟩ := hblock
      ("h" ++ String.ofList (Text.decimal (settings.outputLevel spot.level))) spot.attributes []
    refine ⟨before, after, fun body => ?_⟩
    rw [← hprint, List.append_nil]
    rfl
  | some id =>
    obtain ⟨before, after, hprint⟩ := hblock
      ("h" ++ String.ofList (Text.decimal (settings.outputLevel spot.level)))
      (spot.attributes.insert "id" id)
      (if settings.outputLevel spot.level ≤ settings.maxAnchoredLevel then
        [Html.element "a" (.ofList [("href", "#" ++ id), ("class", "anchor-link")]) []] else [])
    refine ⟨Html.printAll (Html.block "a" (.ofList [("name", id), ("class", "elem-anchor")]) []
      spot.indent) ++ before, after, fun body => ?_⟩
    have hbody := hprint body
    rw [String.append_assoc] at hbody
    rw [String.append_assoc, String.append_assoc, ← hbody, ← Html.printAll_append]
    rfl

/-! ## Runs -/

namespace Settle

variable {α β : Type}

/-- A step of two parts that yields a result has a first part that does. -/
theorem run_bind_ok {x : Settle α} {f : α → Settle β} {p r : Progress} {b : β}
    (h : (x >>= f).run.run p = (.ok b, r)) :
    ∃ a q, x.run.run p = (.ok a, q) ∧ (f a).run.run q = (.ok b, r) := by
  rw [ExceptT.run_bind, StateT.run_bind] at h
  cases hx : x.run.run p with
  | mk result q =>
    rw [hx] at h
    cases result with
    | error e => cases h
    | ok a => exact ⟨a, q, rfl, h⟩

/-- After a first part with a result, a step goes on with its second part. -/
theorem run_bind_of_ok {x : Settle α} {p q : Progress} {a : α} (h : x.run.run p = (.ok a, q))
    (f : α → Settle β) : (x >>= f).run.run p = (f a).run.run q := by
  rw [ExceptT.run_bind, StateT.run_bind, h]
  rfl

theorem run_pure_ok {a b : α} {p q : Progress}
    (h : (pure a : Settle α).run.run p = (.ok b, q)) : a = b ∧ p = q := by
  cases h
  exact ⟨rfl, rfl⟩

end Settle

mutual

/-- What a piece settles to when it does. -/
theorem Draft.settles_of_run {settings : RenderSettings} {highlighter : Highlighter} :
    ∀ (piece : Draft) {p q : Progress} {html : List Html},
      (piece.settle settings highlighter).run.run p = (.ok html, q) →
      Settles settings highlighter p [piece] html q
  | .settled html, p, q, out, h => by
    rw [Draft.settle] at h
    obtain ⟨rfl, rfl⟩ := Settle.run_pure_ok h
    exact .settled html (.nil p)
  | .element tag attributes body, p, q, out, h => by
    rw [Draft.settle] at h
    obtain ⟨inner, _, hbody, h⟩ := Settle.run_bind_ok h
    obtain ⟨rfl, rfl⟩ := Settle.run_pure_ok h
    exact .element tag attributes (settles_of_run body hbody) (.nil _)
  | .code spot, p, q, out, h => by
    rw [Draft.settle] at h
    obtain ⟨html, _, hcode, h⟩ := Settle.run_bind_ok h
    obtain ⟨rfl, rfl⟩ := Settle.run_pure_ok h
    obtain ⟨hhtml, rfl⟩ := Prod.mk.inj hcode
    exact .code spot hhtml (.nil p)
  | .heading spot body, p, q, out, h => by
    rw [Draft.settle] at h
    -- A heading is visited before those in its content.
    obtain ⟨id, _, hvisit, h⟩ := Settle.run_bind_ok h
    obtain ⟨inner, _, hbody, h⟩ := Settle.run_bind_ok h
    obtain ⟨rfl, rfl⟩ := Settle.run_pure_ok h
    obtain ⟨hid, rfl⟩ := Prod.mk.inj hvisit
    cases hid
    have hheading := Settles.heading spot (settles_of_run body hbody) (.nil _)
    rwa [List.append_nil] at hheading
  | .mailLabel address body, p, q, out, h => by
    rw [Draft.settle] at h
    -- The label is settled in any case: only what it is printed as tells whether it is shown.
    obtain ⟨label, _, hbody, h⟩ := Settle.run_bind_ok h
    have hlabel := settles_of_run body hbody
    split at h
    · next hshown =>
      obtain ⟨rfl, rfl⟩ := Settle.run_pure_ok h
      exact .mailShown address hlabel hshown (.nil _)
    · next hkept =>
      obtain ⟨rfl, rfl⟩ := Settle.run_pure_ok h
      have hmail := Settles.mailKept address hlabel hkept (.nil _)
      rwa [List.append_nil] at hmail

/-- What a draft settles to when it does. -/
theorem settles_of_run {settings : RenderSettings} {highlighter : Highlighter} :
    ∀ (draft : List Draft) {p q : Progress} {html : List Html},
      (settleAll settings highlighter draft).run.run p = (.ok html, q) →
      Settles settings highlighter p draft html q
  | [], p, q, html, h => by
    rw [settleAll] at h
    obtain ⟨rfl, rfl⟩ := Settle.run_pure_ok h
    exact .nil p
  | piece :: rest, p, q, html, h => by
    rw [settleAll] at h
    obtain ⟨here, _, hpiece, h⟩ := Settle.run_bind_ok h
    obtain ⟨later, _, hrest, h⟩ := Settle.run_bind_ok h
    obtain ⟨rfl, rfl⟩ := Settle.run_pure_ok h
    exact (piece.settles_of_run hpiece).append (settles_of_run rest hrest)

end

/-- Settling yields what a draft settles to. -/
theorem Settles.run_eq {settings : RenderSettings} {highlighter : Highlighter} {p q : Progress}
    {draft : List Draft} {html : List Html} (h : Settles settings highlighter p draft html q) :
    (settleAll settings highlighter draft).run.run p = (.ok html, q) := by
  -- A piece is settled, and then what follows it.
  have hcons : ∀ {p q r : Progress} {piece : Draft} {rest : List Draft} {later : List Html}
      (here : List Html),
      (piece.settle settings highlighter).run.run p = (.ok here, q) →
      (settleAll settings highlighter rest).run.run q = (.ok later, r) →
      (settleAll settings highlighter (piece :: rest)).run.run p = (.ok (here ++ later), r) := by
    intro p q r piece rest later here hhere hlater
    rw [settleAll, Settle.run_bind_of_ok hhere, Settle.run_bind_of_ok hlater]
    rfl
  induction h with
  | nil p => rfl
  | settled html hrest ih =>
    refine hcons [html] ?_ ih
    rw [Draft.settle]
    rfl
  | element tag attributes hbody hrest ihbody ih =>
    refine hcons [.element tag attributes _] ?_ ih
    rw [Draft.settle, Settle.run_bind_of_ok ihbody]
    rfl
  | code spot hhtml hrest ih =>
    refine hcons [.raw _] ?_ ih
    rw [Draft.settle, hhtml]
    rfl
  | heading spot hbody hrest ihbody ih =>
    refine hcons (headingHtml settings spot _ _) ?_ ih
    have hvisit : ∀ p : Progress, (modifyGet (Progress.visit settings spot) :
        Settle (Option String)).run.run p
          = (.ok (p.visit settings spot).1, (p.visit settings spot).2) := fun _ => rfl
    rw [Draft.settle, Settle.run_bind_of_ok (hvisit _), Settle.run_bind_of_ok ihbody]
    rfl
  | mailShown address hlabel hshown hrest ihlabel ih =>
    refine hcons [.raw _] ?_ ih
    rw [Draft.settle, Settle.run_bind_of_ok ihlabel, if_pos hshown]
    rfl
  | mailKept address hlabel hkept hrest ihlabel ih =>
    refine hcons _ ?_ ih
    rw [Draft.settle, Settle.run_bind_of_ok ihlabel, if_neg hkept]
    rfl

/-! ## Pages -/

/-- A page prints HTML to which the draft of its document settles, and shows
    what has been recorded then. -/
theorem Renderer.settles_of_renderWithIds {r : Renderer} {document : Node} {ids : HeadingIds}
    {page : Page} (h : (r.renderWithIds document ids).1 = .ok page) :
    ∃ html progress,
      Settles r.settings r.highlighter (.start ids) (Draft.ofNode r.settings.baseUrl document)
        html progress ∧
      page = ⟨Html.printAll html, progress.toc, progress.title⟩ ∧
      (r.renderWithIds document ids).2 = progress.ids := by
  cases hrun : (settleAll r.settings r.highlighter
      (Draft.ofNode r.settings.baseUrl document)).run.run (.start ids) with
  | mk result progress =>
    rw [renderWithIds, hrun] at h ⊢
    cases result with
    | error e => cases h
    | ok html =>
      cases h
      exact ⟨html, progress, settles_of_run _ hrun, rfl, rfl⟩

end DocSite
