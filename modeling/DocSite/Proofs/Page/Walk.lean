/-
  DocSite.Proofs.Page.Walk

  Rendering as a walk over a list. The landmarks of a document are its headings
  and its code elements in the order in which the page prints them, told off the
  tree alone. Settling the draft of a document, whether there is a page in the
  end or not, visits the headings among the landmarks up to the first code
  element that fails, and nothing else.

  What one step of settling does to the progress of a page is said once for each
  kind of step; that steps one after the other walk over their landmarks one after
  the other carries this over to whole drafts.
-/
import DocSite.Proofs.Page.Headings
import Mathlib.Data.List.TakeWhile

namespace DocSite

open DocSite.Text

/-! ## Landmarks -/

/-- Where a page is more than its layout: a heading, which is given an identifier
    and recorded, or a code element, which may fail. -/
inductive Landmark where
  | heading (spot : HeadingSpot)
  | code (spot : CodeSpot)

namespace Landmark

/-- The heading that a landmark is. -/
def heading? : Landmark → Option HeadingSpot
  | heading spot => some spot
  | code _ => none

/-- How a landmark fails. -/
def failure? (highlighter : Highlighter) : Landmark → Option RenderError
  | heading _ => none
  | code spot =>
    match spot.highlight highlighter with
    | .error e => some e
    | .ok _ => none

/-- The first failure among landmarks. -/
def firstFailure? (highlighter : Highlighter) (landmarks : List Landmark) : Option RenderError :=
  landmarks.findSome? (failure? highlighter)

/-- The headings before the first landmark that fails. -/
def reached (highlighter : Highlighter) (landmarks : List Landmark) : List HeadingSpot :=
  (landmarks.takeWhile fun landmark => (landmark.failure? highlighter).isNone).filterMap heading?

variable (highlighter : Highlighter)

theorem firstFailure?_append (a b : List Landmark) :
    firstFailure? highlighter (a ++ b)
      = (firstFailure? highlighter a).or (firstFailure? highlighter b) :=
  List.findSome?_append

/-- Nothing is reached behind a failure. -/
theorem reached_append_of_some {a : List Landmark} {e : RenderError}
    (h : firstFailure? highlighter a = some e) (b : List Landmark) :
    reached highlighter (a ++ b) = reached highlighter a := by
  induction a with
  | nil => cases h
  | cons landmark rest ih =>
    cases hfail : landmark.failure? highlighter with
    | some e =>
      simp only [reached, List.cons_append, List.takeWhile_cons, hfail, Option.isNone_some,
        Bool.false_eq_true, if_false]
    | none =>
      have hrest : firstFailure? highlighter rest = some e := by
        rwa [firstFailure?, List.findSome?_cons, hfail] at h
      have hreached := ih hrest
      unfold reached at hreached ⊢
      rw [List.cons_append, List.takeWhile_cons_of_pos (by simp [hfail]),
        List.takeWhile_cons_of_pos (by simp [hfail]), List.filterMap_cons, List.filterMap_cons,
        hreached]

/-- Without a failure the headings of what follows are reached as well. -/
theorem reached_append_of_none {a : List Landmark} (h : firstFailure? highlighter a = none)
    (b : List Landmark) :
    reached highlighter (a ++ b) = reached highlighter a ++ reached highlighter b := by
  have hall : ∀ landmark ∈ a, (landmark.failure? highlighter).isNone = true := fun landmark hmem =>
    Option.isNone_iff_eq_none.mpr (List.findSome?_eq_none_iff.mp h landmark hmem)
  unfold reached
  rw [List.takeWhile_append_of_pos hall, List.filterMap_append,
    List.takeWhile_eq_self_iff.mpr hall]

end Landmark

/-- The landmark that a node is. -/
def Node.ownLandmarks (n : Node) : List Landmark :=
  match n.kind with
  | .header level rawText => [.heading ⟨level, rawText, n.attributes, n.children, 0⟩]
  | .codeBlock code =>
    [.code ⟨code, CodeClass.language (n.attribute? "class"), .block,
      CodeClass.directive? (n.attribute? "class")⟩]
  | .codeSpan code => [.code ⟨code, CodeClass.language (n.attribute? "class"), .span, none⟩]
  | _ => []

/-- The landmarks of a document, in the order in which the page prints them: a
    node comes before the children that it shows. -/
def Node.landmarks (n : Node) : List Landmark :=
  n.ownLandmarks ++ n.shown.attach.flatMap fun child => child.1.landmarks
termination_by n.size
decreasing_by exact Node.size_lt_of_mem_shown child.2

theorem Node.landmarks_eq (n : Node) :
    n.landmarks = n.ownLandmarks ++ n.shown.flatMap Node.landmarks := by
  rw [landmarks, List.flatMap_subtype (g := landmarks) fun _ _ => rfl, List.unattach_attach]

/-! ## Landmarks of drafts -/

/-- The landmark that a piece of a draft is, wherever on its line it stands. -/
def Draft.ownLandmarks : Draft → List Landmark
  | .heading spot _ => [.heading { spot with indent := 0 }]
  | .code spot => [.code spot]
  | _ => []

theorem Draft.readsContent_ownLandmarks : ReadsContent ownLandmarks where
  space piece h := by
    cases piece with
    | heading spot body => cases h
    | code spot => cases h
    | _ => rfl
  element _ _ _ := rfl
  mailLabel _ _ := rfl
  heading _ _ := rfl

/-- The landmarks of a document are those of its pieces. -/
theorem Node.flatMap_ownLandmarks_pieces (n : Node) :
    n.pieces.flatMap Draft.ownLandmarks = n.landmarks := by
  induction hsize : n.size using Nat.strongRecOn generalizing n with
  | _ size ih =>
    subst hsize
    have hshown : n.shown.flatMap (fun child => child.pieces.flatMap Draft.ownLandmarks)
        = n.shown.flatMap Node.landmarks :=
      List.flatMap_congr fun child hchild => ih child.size (size_lt_of_mem_shown hchild) child rfl
    have hopening : n.opening.flatMap Draft.ownLandmarks = n.ownLandmarks := by
      obtain ⟨kind, attributes, children⟩ := n
      cases kind <;> rfl
    have hclosing : n.closing.flatMap Draft.ownLandmarks = [] := by
      unfold closing
      split
      · next references _ => simp [Draft.text, Draft.ownLandmarks]
      · rfl
    rw [pieces_eq, landmarks_eq, List.flatMap_append, List.flatMap_append, hopening, hclosing,
      List.append_nil, List.flatMap_assoc, hshown]

/-- The landmarks of a document are those of its draft. -/
theorem Node.collectAll_ownLandmarks (baseUrl : String) (document : Node) :
    Draft.collectAll Draft.ownLandmarks (Draft.ofNode baseUrl document) = document.landmarks := by
  rw [← document.flatMap_ownLandmarks_pieces]
  exact Layout.collectAll_node Draft.readsContent_ownLandmarks baseUrl document 0

/-! ## Steps -/

section Walks

variable {settings : RenderSettings} {highlighter : Highlighter} {α β : Type}

/-- A step walks over landmarks: it fails with their first failure, otherwise it has
    a result, and in both cases it visits the headings that are reached. -/
def Walks (settings : RenderSettings) (highlighter : Highlighter) (step : Settle α)
    (landmarks : List Landmark) : Prop :=
  ∀ p : Progress, ∃ result : α, step.run.run p =
    (match Landmark.firstFailure? highlighter landmarks with
      | some e => .error e
      | none => .ok result,
    (p.visitAll settings (Landmark.reached highlighter landmarks)).2)

/-- The walk over no landmarks. -/
theorem Walks.pure (a : α) : Walks settings highlighter (pure a : Settle α) [] := fun _ => ⟨a, rfl⟩

/-- A heading is visited. -/
theorem Walks.visit (spot : HeadingSpot) :
    Walks settings highlighter (modifyGet (Progress.visit settings spot)) [.heading spot] :=
  fun p => ⟨(p.visit settings spot).1, rfl⟩

/-- A code element that fails ends the walk, and records nothing. -/
theorem Walks.code (spot : CodeSpot) :
    Walks settings highlighter (ExceptT.mk (Pure.pure (spot.highlight highlighter)))
      [.code spot] := by
  intro p
  cases h : spot.highlight highlighter with
  | error e =>
    refine ⟨"", ?_⟩
    simp only [Landmark.firstFailure?, Landmark.reached, List.findSome?_cons, List.takeWhile_cons,
      Landmark.failure?, h]
    rfl
  | ok html =>
    refine ⟨html, ?_⟩
    simp only [Landmark.firstFailure?, Landmark.reached, List.findSome?_cons, List.takeWhile_cons,
      Landmark.failure?, h]
    rfl

/-- Two steps, one after the other, walk over the landmarks of the first and then,
    unless there has been a failure, over those of the second. -/
theorem Walks.bind {x : Settle α} {f : α → Settle β} {a b : List Landmark}
    (hx : Walks settings highlighter x a) (hf : ∀ y, Walks settings highlighter (f y) b) :
    Walks settings highlighter (x >>= f) (a ++ b) := by
  intro p
  obtain ⟨y, hy⟩ := hx p
  obtain ⟨z, hz⟩ := hf y (p.visitAll settings (Landmark.reached highlighter a)).2
  refine ⟨z, ?_⟩
  rw [ExceptT.run_bind, StateT.run_bind, hy, Landmark.firstFailure?_append]
  cases hfail : Landmark.firstFailure? highlighter a with
  | some e =>
    rw [Landmark.reached_append_of_some highlighter hfail]
    rfl
  | none =>
    rw [Landmark.reached_append_of_none highlighter hfail, Progress.visitAll_append]
    exact hz

end Walks

/-! ## Drafts -/

section Drafts

variable (settings : RenderSettings) (highlighter : Highlighter)

mutual

/-- Settling a piece walks over the landmarks in it. -/
theorem Draft.walks_settle : ∀ piece : Draft,
    Walks settings highlighter (piece.settle settings highlighter)
      (piece.collect Draft.ownLandmarks)
  | .settled html => by
    rw [Draft.settle]
    exact .pure [html]
  | .element tag attributes body => by
    rw [Draft.settle, Draft.collect, Draft.readsContent_ownLandmarks.element, List.nil_append,
      ← List.append_nil (Draft.collectAll _ _)]
    exact (walks_settleAll body).bind fun _ => .pure _
  | .code spot => by
    rw [Draft.settle]
    exact (Walks.code spot).bind fun _ => .pure _
  | .heading spot body => by
    rw [Draft.settle, Draft.collect, ← List.append_nil (Draft.collectAll _ _)]
    -- The landmark does not tell the indentation, on which no visit depends.
    exact (Walks.visit { spot with indent := 0 }).bind fun _ =>
      (walks_settleAll body).bind fun _ => .pure _
  | .mailLabel address body => by
    rw [Draft.settle, Draft.collect, Draft.readsContent_ownLandmarks.mailLabel, List.nil_append,
      ← List.append_nil (Draft.collectAll _ _)]
    refine (walks_settleAll body).bind fun label => ?_
    split
    · exact .pure _
    · exact .pure _

/-- Settling a draft walks over the landmarks in it. -/
theorem walks_settleAll : ∀ draft : List Draft,
    Walks settings highlighter (settleAll settings highlighter draft)
      (Draft.collectAll Draft.ownLandmarks draft)
  | [] => by
    rw [settleAll]
    exact .pure []
  | piece :: rest => by
    rw [settleAll, Draft.collectAll, ← List.append_nil (Draft.collectAll _ _)]
    exact piece.walks_settle.bind fun _ => (walks_settleAll rest).bind fun _ => .pure _

end

end Drafts

/-! ## Documents -/

/-- The first failure in a document. -/
def Node.firstFailure? (highlighter : Highlighter) (document : Node) : Option RenderError :=
  Landmark.firstFailure? highlighter document.landmarks

/-- The headings of a document that are visited: all of them, or those before the
    first code element that fails. -/
def Node.reached (highlighter : Highlighter) (document : Node) : List HeadingSpot :=
  Landmark.reached highlighter document.landmarks

/-- **Rendering a document walks over its landmarks.** There is a page exactly if no
    landmark fails, and what is recorded are the visits of the headings that are
    reached. -/
theorem Renderer.renderWithIds_eq (r : Renderer) (document : Node) (ids : HeadingIds) :
    let progress := ((Progress.start ids).visitAll r.settings (document.reached r.highlighter)).2
    ∃ html, r.renderWithIds document ids =
      (match document.firstFailure? r.highlighter with
        | some e => .error e
        | none => .ok ⟨html, progress.toc, progress.title⟩,
      progress.ids) := by
  obtain ⟨html, hrun⟩ := walks_settleAll r.settings r.highlighter
    (Draft.ofNode r.settings.baseUrl document) (.start ids)
  rw [Node.collectAll_ownLandmarks] at hrun
  refine ⟨Html.printAll html, ?_⟩
  rw [renderWithIds, hrun, Node.firstFailure?]
  cases Landmark.firstFailure? r.highlighter document.landmarks <;> rfl

end DocSite
