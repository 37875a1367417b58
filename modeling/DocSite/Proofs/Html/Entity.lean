/-
  DocSite.Proofs.Html.Entity

  Decoding undoes escaping, wherever the escaped text stands: a reference ends
  with its own `;`, so that what follows cannot become a part of it.
-/
import DocSite.Proofs.Html.Escape

namespace DocSite.Html

/-! ## One reference -/

theorem decodeReferences_cons_of_ne {c : Char} (h : c ≠ '&') (rest : List Char) :
    decodeReferences (c :: rest) = c :: decodeReferences rest := by
  rw [decodeReferences]
  exact h

theorem decodeReferences_append_of_not_mem {s : List Char} (h : '&' ∉ s) (rest : List Char) :
    decodeReferences (s ++ rest) = s ++ decodeReferences rest := by
  induction s with
  | nil => rfl
  | cons c s ih =>
    rw [List.mem_cons, not_or] at h
    rw [List.cons_append, decodeReferences_cons_of_ne (Ne.symm h.1), ih h.2, List.cons_append]

/-- A name is read up to the first `;` after it. -/
theorem untilSemicolon_append {name : List Char} (hamp : '&' ∉ name) (hend : ';' ∉ name)
    (rest : List Char) : untilSemicolon (name ++ ';' :: rest) = some (name, rest) := by
  induction name with
  | nil => rfl
  | cons c name ih =>
    rw [List.mem_cons, not_or] at hamp hend
    rw [List.cons_append, untilSemicolon, ih hamp.2 hend.2]
    · rfl
    · exact fun h => hend.1 h.symm
    · exact fun h => hamp.1 h.symm

/-- A reference decodes by itself, whatever follows it. -/
theorem decodeReferences_cons_amp {name : List Char} (hamp : '&' ∉ name) (hend : ';' ∉ name)
    (rest : List Char) :
    decodeReferences ('&' :: (name ++ ';' :: rest))
      = (reference? name).getD ('&' :: (name ++ [';'])) ++ decodeReferences rest := by
  rw [decodeReferences]
  split
  · next body after huntil =>
    rw [untilSemicolon_append hamp hend] at huntil
    cases huntil
    cases reference? name with
    | some chars => rfl
    | none =>
      -- What stands for nothing is left as it is, and nothing in it begins a reference.
      have hsemicolon : ';' ≠ '&' := by decide
      rw [decodeReferences_append_of_not_mem hamp, decodeReferences_cons_of_ne hsemicolon,
        Option.getD_none, List.cons_append, List.append_assoc, List.singleton_append]
  · next huntil =>
    rw [untilSemicolon_append hamp hend] at huntil
    cases huntil

theorem resolveEntity_eq {name : List Char} (hamp : '&' ∉ name) (hend : ';' ∉ name) :
    resolveEntity name = (reference? name).getD ('&' :: (name ++ [';'])) := by
  rw [resolveEntity, decodeReferences_cons_amp hamp hend, decodeReferences, List.append_nil]

/-- The text of a reference is what the reference decodes to. -/
theorem decodeReferences_reference {name : List Char} (hamp : '&' ∉ name) (hend : ';' ∉ name)
    (rest : List Char) :
    decodeReferences ('&' :: (name ++ ';' :: rest))
      = resolveEntity name ++ decodeReferences rest := by
  rw [decodeReferences_cons_amp hamp hend, resolveEntity_eq hamp hend]

/-! ## Escaped text -/

theorem decodeReferences_escapeTextChar (c : Char) (rest : List Char) :
    decodeReferences (escapeTextChar c ++ rest) = c :: decodeReferences rest := by
  have hname : ∀ (name : List Char), '&' ∉ name → ';' ∉ name → reference? name = some [c] →
      decodeReferences ('&' :: (name ++ ';' :: rest)) = c :: decodeReferences rest := by
    intro name hamp hend hreference
    rw [decodeReferences_cons_amp hamp hend, hreference]
    rfl
  unfold escapeTextChar
  split
  · exact hname "amp".toList (by decide) (by decide) (by decide +kernel)
  · exact hname "lt".toList (by decide) (by decide) (by decide +kernel)
  · exact hname "gt".toList (by decide) (by decide) (by decide +kernel)
  · next hamp _ _ => exact decodeReferences_cons_of_ne hamp rest

/-- Escaped text decodes to the text, whatever follows it. -/
theorem decodeReferences_escapeText (s rest : List Char) :
    decodeReferences (escapeText s ++ rest) = s ++ decodeReferences rest := by
  induction s with
  | nil => rfl
  | cons c s ih =>
    rw [escapeText, List.flatMap_cons, List.append_assoc, decodeReferences_escapeTextChar]
    exact congrArg (c :: ·) ih

end DocSite.Html
