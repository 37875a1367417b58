/-
  DocSite.Proofs.Html.Headings

  The headings of a page, as they stand in its HTML: elements `h1` to `h6` with
  their attributes and content, the outer before the inner.
-/
import DocSite.Page.Settle
import DocSite.Proofs.Html.Reading

namespace DocSite.Html

open DocSite.Text

/-- The level of the heading that an element of the given name is. -/
def headingLevel? (tag : String) : Option Nat :=
  [("h1", 1), ("h2", 2), ("h3", 3), ("h4", 4), ("h5", 5), ("h6", 6)].lookup tag

/-- The element of a heading. -/
structure HeadingElement where
  level : Nat
  attributes : Attributes
  body : List Html

mutual

/-- The headings in a piece of HTML. -/
def headings : Html → List HeadingElement
  | .element tag attributes body =>
    match headingLevel? tag with
    | some level => ⟨level, attributes, body⟩ :: headingsAll body
    | none => headingsAll body
  | .text _ | .raw _ | .reference _ | .void .. => []

/-- The headings in pieces of HTML one after the other. -/
def headingsAll : List Html → List HeadingElement
  | [] => []
  | piece :: rest => piece.headings ++ headingsAll rest

end

/-- The identifiers of the headings in pieces of HTML. -/
def headingIds (html : List Html) : List (Option String) :=
  (headingsAll html).map (·.attributes.get? "id")

@[simp] theorem headingsAll_append (a b : List Html) :
    headingsAll (a ++ b) = headingsAll a ++ headingsAll b := by
  induction a with
  | nil => rfl
  | cons piece rest ih => rw [List.cons_append, headingsAll, ih, headingsAll, List.append_assoc]

theorem headings_element {tag : String} (h : headingLevel? tag = none) (attributes : Attributes)
    (body : List Html) : (element tag attributes body).headings = headingsAll body := by
  rw [headings, h]

/-- HTML that is printed without any tag has no headings. -/
theorem headingsAll_eq_nil {html : List Html} (h : '<' ∉ (printAll html).toList) :
    headingsAll html = [] := by
  induction html with
  | nil => rfl
  | cons piece rest ih =>
    rw [printAll, String.toList_append, List.mem_append, not_or] at h
    have hpiece : piece.headings = [] := by
      cases piece with
      | element tag attributes body =>
        refine absurd ?_ h.1
        simp [print, openTag]
      | _ => rfl
    rw [headingsAll, hpiece, ih h.2, List.append_nil]

/-! ## Headings of pages -/

theorem decimal_of_lt {n : Nat} (h : n < 10) : decimal n = [Char.ofNat (48 + n)] := by
  rw [decimal, if_pos h]

theorem headingLevel?_tag {level : Nat} (hlow : 1 ≤ level) (hhigh : level ≤ 6) :
    headingLevel? ("h" ++ String.ofList (decimal level)) = some level := by
  have hall : ∀ n < 7, 1 ≤ n →
      headingLevel? ("h" ++ String.ofList [Char.ofNat (48 + n)]) = some n := by decide
  rw [decimal_of_lt (by omega)]
  exact hall level (by omega) hlow

theorem outputLevel_bounds (settings : RenderSettings) (level : Nat) :
    1 ≤ settings.outputLevel level ∧ settings.outputLevel level ≤ 6 := by
  unfold RenderSettings.outputLevel
  omega

/-- The link from a heading to itself. -/
def permalink (id : String) : Html :=
  element "a" (.ofList [("href", "#" ++ id), ("class", "anchor-link")]) []

/-- The identifiers that a page leads to, in its table of contents and by the
    links from its headings to themselves, are those of one heading each. -/
structure Addressable (maxLevel : Nat) (toc : List TocEntry) (html : List Html) : Prop where
  toc : ∀ entry ∈ toc, (headingIds html).count (some entry.id) = 1
  permalinks : ∀ heading ∈ headingsAll html, heading.level ≤ maxLevel →
    ∃ id, heading.body.getLast? = some (permalink id) ∧ (headingIds html).count (some id) = 1

/-- The element of a heading with an identifier. -/
def headingElement (settings : RenderSettings) (spot : HeadingSpot) (id : Option String)
    (body : List Html) : HeadingElement :=
  let level := settings.outputLevel spot.level
  match id with
  | none => ⟨level, spot.attributes, body⟩
  | some id =>
    ⟨level, spot.attributes.insert "id" id,
      body ++ (if level ≤ settings.maxAnchoredLevel then [permalink id] else [])⟩

/-- A heading is one heading, before those in its content. -/
theorem headingsAll_headingHtml (settings : RenderSettings) (spot : HeadingSpot)
    (id : Option String) (body : List Html) :
    headingsAll (headingHtml settings spot id body)
      = headingElement settings spot id body :: headingsAll body := by
  obtain ⟨hlow, hhigh⟩ := outputLevel_bounds settings spot.level
  have hlevel := headingLevel?_tag hlow hhigh
  have hblock : ∀ (tag : String) (attributes : Attributes) (inner : List Html) (indent : Nat),
      headingsAll (block tag attributes inner indent)
        = (element tag attributes inner).headings := by
    intro tag attributes inner indent
    have hpad : (pad indent).headings = [] := rfl
    have hnewline : newline.headings = [] := rfl
    rw [block, headingsAll, headingsAll, headingsAll, headingsAll, hpad, hnewline,
      List.nil_append, List.append_nil, List.append_nil]
  have hlink : ∀ attributes, (element "a" attributes []).headings = [] := fun attributes =>
    headings_element (by decide) attributes []
  cases id with
  | none => rw [headingHtml, hblock, headings, hlevel, headingElement]
  | some id =>
    -- Neither the anchor before the heading nor the link in it is a heading.
    have hpermalink : headingsAll (if settings.outputLevel spot.level ≤ settings.maxAnchoredLevel
        then [permalink id] else []) = [] := by
      split
      · rw [headingsAll, permalink, hlink, headingsAll, List.append_nil]
      · rfl
    rw [headingHtml, headingsAll_append, hblock, hblock, hlink, List.nil_append, headings, hlevel,
      headingElement]
    simp only [permalink] at hpermalink ⊢
    rw [headingsAll_append, hpermalink, List.append_nil]

end DocSite.Html
