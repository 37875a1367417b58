/-
  DocSite.Highlight.Plain

  The backend that only escapes code, and the marking of selected lines that
  all line-based backends share.
-/
import DocSite.Highlight.Backend
import DocSite.Html.Escape

namespace DocSite

open DocSite.Html

/-! ## Lines -/

/-- The lines of a text, each with its newline; the last may lack one. -/
def codeLines : List Char → List (List Char)
  | [] => []
  | c :: rest =>
    if c = '\n' then [c] :: codeLines rest
    else
      match codeLines rest with
      | [] => [[c]]
      | line :: more => (c :: line) :: more

/-- Nothing is lost or added when a text is cut into lines. -/
theorem flatten_codeLines (s : List Char) : (codeLines s).flatten = s := by
  induction s with
  | nil => rfl
  | cons c rest ih =>
    unfold codeLines
    split
    · simp [ih]
    · split <;> simp_all

/-- The element around a line that stands out. -/
def markLine (line : List Char) : List Char :=
  "<span class=\"hll\">".toList ++ line ++ "</span>".toList

/-- Joins rendered lines, the first of which has the given number, and marks the
    selected ones. Numbers grow without a bound, since no text has 2 ^ 32 lines. -/
def markLines (selection : LineSelection) : Nat → List (List Char) → List Char
  | _, [] => []
  | number, line :: rest =>
    (if selection.contains number then markLine line else line)
      ++ markLines selection (number + 1) rest

/-! ## The backend -/

/-- Escaped code, with marked lines in a block. -/
def plainHighlight (mode : HighlightMode) (selection : LineSelection) (code : List Char) :
    List Char :=
  match mode with
  | .span => escapeText code
  | .block => markLines selection 1 ((codeLines code).map escapeText)

/-- Escapes code of any language. -/
def Backend.plain : Backend where
  name := "Plain"
  languages := ["text"]
  supports := fun _ => true
  highlight := fun request =>
    .ok (String.ofList (plainHighlight request.mode request.lines request.code.toList))

end DocSite
