/-
  DocSite.Proofs.Highlight.Plain

  Code that is only escaped: a highlighter in front of the plain backend answers
  with the escaped code, in which nothing is markup but the elements around
  marked lines.
-/
import DocSite.Page.Settle
import DocSite.Proofs.Html.VisibleText

namespace DocSite

open DocSite.Html DocSite.Markup

/-- Whatever language code is in, the plain backend escapes it. -/
theorem Highlighter.highlight_plain {h : Highlighter} (hplain : h.backend = .plain)
    {request : HighlightRequest} {html : String} (hok : h.highlight request = .ok html) :
    html = String.ofList (plainHighlight request.mode request.lines request.code.toList) := by
  rw [highlight, hplain] at hok
  have hsupports : Backend.plain.supports (h.resolve request.language) = true := rfl
  rw [if_pos hsupports] at hok
  exact (Except.ok.inj hok).symm

theorem CodeSpot.highlight_plain {h : Highlighter} (hplain : h.backend = .plain) {spot : CodeSpot}
    {html : String} (hok : spot.highlight h = .ok html) :
    ∃ lines, html = String.ofList (plainHighlight spot.mode lines spot.code.toList) := by
  unfold CodeSpot.highlight at hok
  split at hok
  · cases hok
  · next lines _ =>
    split at hok
    · cases hok
    · next heq =>
      cases hok
      exact ⟨lines, Highlighter.highlight_plain hplain heq⟩

/-! ## Markup -/

/-- The tags of the element around a marked line. -/
def markTags : List Tag := [.opening "span".toList ["class".toList], .closing "span".toList]

/-- Text without markup but for the elements around marked lines. -/
def HasMarksOnly (markup : List Char) : Prop :=
  ∃ tags, Reads markup tags ∧ ∀ tag ∈ tags, tag ∈ markTags

theorem HasMarksOnly.of_not_mem {markup : List Char} (h : '<' ∉ markup) : HasMarksOnly markup :=
  ⟨[], .of_not_mem h, fun _ hmem => absurd hmem List.not_mem_nil⟩

theorem HasMarksOnly.append {a b : List Char} (ha : HasMarksOnly a) (hb : HasMarksOnly b) :
    HasMarksOnly (a ++ b) := by
  obtain ⟨s, hs, hsmarks⟩ := ha
  obtain ⟨t, ht, htmarks⟩ := hb
  exact ⟨s ++ t, hs.append ht, List.forall_mem_append.mpr ⟨hsmarks, htmarks⟩⟩

theorem markLine_eq (line : List Char) :
    markLine line
      = (openTag "span" (.ofList [("class", "hll")])).toList ++ line
        ++ (closeTag "span").toList := by
  have hopen : openTag "span" (.ofList [("class", "hll")]) = "<span class=\"hll\">" := by decide
  have hclose : closeTag "span" = "</span>" := by decide
  rw [hopen, hclose]
  unfold markLine
  rfl

theorem HasMarksOnly.markLine {line : List Char} (h : '<' ∉ line) :
    HasMarksOnly (markLine line) := by
  refine ⟨markTags, ?_, fun _ hmem => hmem⟩
  rw [markLine_eq]
  exact .element (by decide) (by decide) (.of_not_mem h)

/-- Code that is only escaped is made of escaped lines, some of which are marked. -/
theorem plainHighlight_induction {Q : List Char → Prop} (hnil : Q [])
    (happend : ∀ {a b}, Q a → Q b → Q (a ++ b)) (hline : ∀ line, Q (escapeText line))
    (hmark : ∀ line, Q (markLine (escapeText line))) (mode : HighlightMode)
    (selection : LineSelection) (code : List Char) : Q (plainHighlight mode selection code) := by
  have hlines : ∀ (lines : List (List Char)) (number : Nat),
      Q (markLines selection number (lines.map escapeText)) := by
    intro lines
    induction lines with
    | nil => exact fun _ => hnil
    | cons line rest ih =>
      intro number
      rw [List.map_cons, markLines]
      refine happend ?_ (ih (number + 1))
      split
      · exact hmark line
      · exact hline line
  cases mode with
  | span => exact hline code
  | block => exact hlines (codeLines code) 1

/-- Code that is only escaped has no markup but that of marked lines, whatever
    characters it holds. -/
theorem hasMarksOnly_plainHighlight (mode : HighlightMode) (selection : LineSelection)
    (code : List Char) : HasMarksOnly (plainHighlight mode selection code) := by
  apply plainHighlight_induction
  · exact .of_not_mem List.not_mem_nil
  · exact .append
  · exact fun line => .of_not_mem (not_mem_escapeText (.inl rfl) line)
  · exact fun line => .markLine (not_mem_escapeText (.inl rfl) line)

/-! ## Text -/

theorem shows_markLine (line : List Char) : Shows (markLine (escapeText line)) line := by
  have hopen : Shows (openTag "span" (.ofList [("class", "hll")])).toList [] :=
    .openTag (by decide) (by decide)
  have hclose : Shows (closeTag "span").toList [] := .closeTag (by decide)
  have h := (hopen.append (.escapeText line)).append hclose
  rw [List.nil_append, List.append_nil] at h
  rwa [markLine_eq]

theorem shows_markLines (selection : LineSelection) (number : Nat) (lines : List (List Char)) :
    Shows (markLines selection number (lines.map escapeText)) lines.flatten := by
  induction lines generalizing number with
  | nil => exact .nil
  | cons line rest ih =>
    refine .append ?_ (ih (number + 1))
    split
    · exact shows_markLine line
    · exact .escapeText line

/-- Code that is only escaped shows the code, whichever lines are marked. -/
theorem shows_plainHighlight (mode : HighlightMode) (selection : LineSelection)
    (code : List Char) : Shows (plainHighlight mode selection code) code := by
  cases mode with
  | span => exact .escapeText code
  | block =>
    have h := shows_markLines selection 1 (codeLines code)
    rwa [flatten_codeLines] at h

end DocSite
