/-
  DocSite.Proofs.Html.Template

  Texts with slots. A page depends on some of its parts only as on what fills a slot:
  what stands around the slots is the same whatever fills them. Filling the slots is
  weaving the texts for them into the pieces between them.
-/
import DocSite.Html.Basic

namespace DocSite

/-- A part of a text. -/
inductive Part (α : Type) where
  | fixed (s : String)
  | slot (a : α)

/-- A text with slots. -/
abbrev Template (α : Type) := List (Part α)

namespace Template

variable {α : Type}

/-- The slots of a text, in order. -/
def slots : Template α → List α
  | [] => []
  | .fixed _ :: rest => slots rest
  | .slot a :: rest => a :: slots rest

/-- The text with its slots filled. -/
def fill (f : α → String) : Template α → String
  | [] => ""
  | .fixed s :: rest => s ++ fill f rest
  | .slot a :: rest => f a ++ fill f rest

@[simp] theorem slots_append (t u : Template α) : slots (t ++ u) = slots t ++ slots u := by
  induction t with
  | nil => rfl
  | cons part rest ih =>
    cases part with
    | fixed s => exact ih
    | slot a => exact congrArg (a :: ·) ih

@[simp] theorem fill_append (f : α → String) (t u : Template α) :
    fill f (t ++ u) = fill f t ++ fill f u := by
  induction t with
  | nil => exact String.empty_append.symm
  | cons part rest ih =>
    cases part with
    | fixed s => rw [List.cons_append, fill, fill, ih, String.append_assoc]
    | slot a => rw [List.cons_append, fill, fill, ih, String.append_assoc]

/-- What fills a slot stands in the text. -/
theorem infix_fill (f : α → String) {t : Template α} {a : α} (h : a ∈ slots t) :
    (f a).toList <:+: (fill f t).toList := by
  induction t with
  | nil => exact absurd h List.not_mem_nil
  | cons part rest ih =>
    cases part with
    | fixed s =>
      rw [fill, String.toList_append]
      exact (ih h).trans (List.suffix_append _ _).isInfix
    | slot b =>
      rw [fill, String.toList_append]
      rcases List.mem_cons.mp h with rfl | h
      · exact (List.prefix_append _ _).isInfix
      · exact (ih h).trans (List.suffix_append _ _).isInfix

end Template

/-! ## Weaving -/

/-- Texts between pieces, which are one more. -/
def weave : List String → List String → String
  | [], _ => ""
  | piece :: _, [] => piece
  | piece :: pieces, text :: texts => piece ++ text ++ weave pieces texts

/-- What stands first goes to the first piece. -/
theorem weave_append_head (s piece : String) (pieces texts : List String) :
    weave ((s ++ piece) :: pieces) texts = s ++ weave (piece :: pieces) texts := by
  cases texts with
  | nil => rfl
  | cons text texts => rw [weave, weave, String.append_assoc, String.append_assoc,
      String.append_assoc]

/-- To fill the slots of a text is to weave what fills them into pieces that do not
    depend on it. -/
theorem Template.exists_weave {α : Type} (t : Template α) :
    ∃ pieces : List String, pieces.length = t.slots.length + 1 ∧
      ∀ f : α → String, t.fill f = weave pieces (t.slots.map f) := by
  -- Fixed text goes to the piece it stands before, and a slot has an empty piece in front.
  induction t with
  | nil => exact ⟨[""], rfl, fun _ => rfl⟩
  | cons part rest ih =>
    obtain ⟨pieces, hlength, hfill⟩ := ih
    cases part with
    | fixed s =>
      obtain ⟨piece, more, rfl⟩ := List.exists_cons_of_length_eq_add_one hlength
      refine ⟨(s ++ piece) :: more, hlength, fun f => ?_⟩
      rw [fill, hfill, slots, weave_append_head]
    | slot a =>
      refine ⟨"" :: pieces, by rw [slots, List.length_cons, List.length_cons, hlength], fun f => ?_⟩
      rw [fill, hfill, slots, List.map_cons, weave, String.empty_append]

end DocSite
