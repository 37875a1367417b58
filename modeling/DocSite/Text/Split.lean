/-
  DocSite.Text.Split

  Cutting text at a separator, at a prefix and at a suffix.
-/
namespace DocSite.Text

/-- The text before and after the first `sep`, when there is one. -/
def splitOnce (sep : Char) : List Char → Option (List Char × List Char)
  | [] => none
  | c :: rest =>
    if c = sep then some ([], rest)
    else (splitOnce sep rest).map fun p => (c :: p.1, p.2)

/-- The text after the given start, when it has that start. -/
def dropPrefix? (start s : List Char) : Option (List Char) := List.isPrefixOf? start s

/-- The text before the given end, when it has that end. -/
def dropSuffix? (ending s : List Char) : Option (List Char) := List.isSuffixOf? ending s

/-- Two halves around the first separator give the text back. -/
theorem splitOnce_eq_some {sep : Char} {s a b : List Char} (h : splitOnce sep s = some (a, b)) :
    s = a ++ sep :: b := by
  induction s generalizing a with
  | nil => simp [splitOnce] at h
  | cons c rest ih =>
    simp only [splitOnce] at h
    split at h
    · next hc => simp at h; obtain ⟨rfl, rfl⟩ := h; simp [hc]
    · simp only [Option.map_eq_some_iff, Prod.mk.injEq] at h
      obtain ⟨⟨a', b'⟩, hp, rfl, rfl⟩ := h
      simp [ih hp]

end DocSite.Text
