/-
  DocSite.Proofs.Html.VisibleText

  The text that a reader sees of markup: its characters without the tags, with
  references replaced by what they stand for. Markup may end anywhere, and what
  follows it may begin with any character, so showing a text is a statement about
  all continuations: an `&` at the end of one text makes no reference with the
  name at the start of the next.
-/
import DocSite.Proofs.Html.Entity
import DocSite.Proofs.Html.Reading
import DocSite.Proofs.Text.Blank

namespace DocSite.Markup

open DocSite.Html DocSite.Text

/-! ## Deleting tags -/

/-- Deletes what stands between a `<` and the next `>`. `inTag` tells whether the
    first character stands there. -/
def deleteFrom (inTag : Bool) : List Char → List Char
  | [] => []
  | c :: rest =>
    if inTag then deleteFrom (c != '>') rest
    else if c = '<' then deleteFrom true rest
    else c :: deleteFrom false rest

/-- Markup without its tags. -/
def deleteTags (markup : List Char) : List Char := deleteFrom false markup

theorem deleteFrom_text {s : List Char} (h : '<' ∉ s) (rest : List Char) :
    deleteFrom false (s ++ rest) = s ++ deleteFrom false rest := by
  induction s with
  | nil => rfl
  | cons c s ih =>
    rw [List.mem_cons, not_or] at h
    rw [List.cons_append, deleteFrom, if_neg (by decide), if_neg (Ne.symm h.1), ih h.2,
      List.cons_append]

theorem deleteFrom_tag {s : List Char} (h : '>' ∉ s) (rest : List Char) :
    deleteFrom true (s ++ '>' :: rest) = deleteFrom false rest := by
  induction s with
  | nil => rfl
  | cons c s ih =>
    rw [List.mem_cons, not_or] at h
    have hc : (c != '>') = true := bne_iff_ne.mpr (Ne.symm h.1)
    rw [List.cons_append, deleteFrom, if_pos rfl, hc, ih h.2]

/-! ## Shown text -/

/-- Markup shows a text if that is what is left of it when tags are deleted and
    references are decoded, whatever follows. -/
def Shows (markup shown : List Char) : Prop :=
  ∃ text, (∀ rest, deleteFrom false (markup ++ rest) = text ++ deleteFrom false rest) ∧
    ∀ rest, decodeReferences (text ++ rest) = shown ++ decodeReferences rest

theorem Shows.nil : Shows [] [] := ⟨[], fun _ => rfl, fun _ => rfl⟩

theorem Shows.append {a b s t : List Char} (ha : Shows a s) (hb : Shows b t) :
    Shows (a ++ b) (s ++ t) := by
  obtain ⟨u, hu, hs⟩ := ha
  obtain ⟨v, hv, ht⟩ := hb
  refine ⟨u ++ v, fun rest => ?_, fun rest => ?_⟩
  · rw [List.append_assoc, hu, hv, List.append_assoc]
  · rw [List.append_assoc, hs, ht, List.append_assoc]

/-- What whole markup shows. -/
theorem Shows.decode_eq {markup shown : List Char} (h : Shows markup shown) :
    decodeReferences (deleteTags markup) = shown := by
  obtain ⟨text, htags, hreferences⟩ := h
  have hmarkup := htags []
  have hdecoded := hreferences []
  rw [deleteFrom, List.append_nil, List.append_nil] at hmarkup
  rw [decodeReferences, List.append_nil, List.append_nil] at hdecoded
  rw [deleteTags, hmarkup, hdecoded]

theorem Shows.escapeText (s : List Char) : Shows (escapeText s) s := by
  refine ⟨Html.escapeText s, ?_, decodeReferences_escapeText s⟩
  exact deleteFrom_text (not_mem_escapeText (.inl rfl) s)

theorem Shows.reference {name : List Char} (h : IsReferenceName name) :
    Shows ('&' :: (name ++ [';'])) (resolveEntity name) := by
  have hother : ∀ mark, isReferenceChar mark = false → mark ≠ '#' → mark ∉ name := by
    intro mark hmark hhash hmem
    rcases h.mem hmem with h | h
    · exact hhash h
    · rw [hmark] at h
      cases h
  refine ⟨'&' :: (name ++ [';']), ?_, fun rest => ?_⟩
  -- No tag begins in a reference, so that it is left whole for decoding.
  · refine deleteFrom_text ?_
    rw [List.mem_cons, List.mem_append, List.mem_singleton]
    rintro (heq | hmem | heq)
    · exact absurd heq (by decide)
    · exact hother '<' (by decide) (by decide) hmem
    · exact absurd heq (by decide)
  · rw [List.cons_append, List.append_assoc, List.singleton_append]
    exact decodeReferences_reference (hother '&' (by decide) (by decide))
      (hother ';' (by decide) (by decide)) rest

/-- A tag shows nothing. -/
theorem Shows.tag {s : List Char} (h : '>' ∉ s) : Shows ('<' :: (s ++ ['>'])) [] := by
  refine ⟨[], fun rest => ?_, fun _ => rfl⟩
  rw [List.cons_append, deleteFrom, if_neg (by decide), if_pos rfl, List.append_assoc,
    List.singleton_append]
  exact deleteFrom_tag h rest

/-! ## Printed tags -/

theorem not_mem_printEntries {mark : Char} (hmark : mark = '<' ∨ mark = '>')
    {entries : List (String × String)} (h : ∀ entry ∈ entries, IsPlainName entry.1) :
    mark ∉ (printEntries entries).toList := by
  induction entries with
  | nil => exact List.not_mem_nil
  | cons entry rest ih =>
    obtain ⟨key, value⟩ := entry
    obtain ⟨hkey, hrest⟩ := List.forall_mem_cons.mp h
    have hplain : mark ∉ key.toList := by
      intro hmem
      have hchar := hkey.2 _ hmem
      rcases hmark with rfl | rfl <;> exact absurd hchar (by decide)
    have hvalue : mark ∉ escapeAttribute value.toList :=
      not_mem_escapeAttribute (hmark.imp_right .inl) value.toList
    have hframe : mark ≠ ' ' ∧ mark ≠ '=' ∧ mark ≠ '"' := by
      rcases hmark with rfl | rfl <;> decide
    simp [printEntries, printAttribute, hplain, hvalue, hframe, ih hrest]

/-- What is inside a tag that is opened holds neither `<` nor `>`. -/
theorem not_mem_tag {mark : Char} (hmark : mark = '<' ∨ mark = '>') {tag : String}
    {attributes : Attributes} (htag : IsElementName tag.toList) (hkeys : PlainKeys attributes) :
    mark ∉ tag.toList ++ (printEntries attributes.entries).toList := by
  have hname : mark ∉ tag.toList := by
    intro hmem
    have hchar := htag.2 _ hmem
    rcases hmark with rfl | rfl <;> exact absurd hchar (by decide)
  rw [List.mem_append]
  rintro (hmem | hmem)
  · exact hname hmem
  · exact not_mem_printEntries hmark hkeys hmem

theorem Shows.openTag {tag : String} {attributes : Attributes} (htag : IsElementName tag.toList)
    (hkeys : PlainKeys attributes) : Shows (openTag tag attributes).toList [] := by
  have hprint : (Html.openTag tag attributes).toList
      = '<' :: (tag.toList ++ (printEntries attributes.entries).toList ++ ['>']) := by
    simp [Html.openTag]
  rw [hprint]
  exact .tag (not_mem_tag (.inr rfl) htag hkeys)

theorem Shows.closeTag {tag : String} (htag : IsElementName tag.toList) :
    Shows (closeTag tag).toList [] := by
  have hprint : (Html.closeTag tag).toList = '<' :: ('/' :: tag.toList ++ ['>']) := by
    simp [Html.closeTag]
  rw [hprint]
  refine .tag fun hmem => ?_
  rcases List.mem_cons.mp hmem with heq | hmem
  · exact absurd heq (by decide)
  · exact absurd (htag.2 _ hmem) (by decide)

theorem Shows.void {tag : String} {attributes : Attributes} (htag : IsElementName tag.toList)
    (hkeys : PlainKeys attributes) :
    Shows ("<" ++ tag ++ printEntries attributes.entries ++ " />").toList [] := by
  have hprint : ("<" ++ tag ++ printEntries attributes.entries ++ " />").toList
      = '<' :: (tag.toList ++ (printEntries attributes.entries).toList ++ [' ', '/'] ++ ['>']) := by
    simp
  rw [hprint]
  refine .tag fun hmem => ?_
  rcases List.mem_append.mp hmem with hmem | hmem
  · exact not_mem_tag (.inr rfl) htag hkeys hmem
  · exact absurd hmem (by decide)

/-! ## White space -/

/-- Markup prints characters if these are what it shows, white space aside. -/
def Prints (markup ink : List Char) : Prop :=
  ∃ shown, Shows markup shown ∧ withoutBlanks shown = ink

theorem Shows.prints {markup shown : List Char} (h : Shows markup shown) :
    Prints markup (withoutBlanks shown) := ⟨shown, h, rfl⟩

theorem Prints.append {a b s t : List Char} (ha : Prints a s) (hb : Prints b t) :
    Prints (a ++ b) (s ++ t) := by
  obtain ⟨u, hu, rfl⟩ := ha
  obtain ⟨v, hv, rfl⟩ := hb
  exact ⟨u ++ v, hu.append hv, withoutBlanks_append u v⟩

theorem Prints.element {tag : String} {attributes : Attributes} {body : List Html}
    {ink : List Char} (htag : IsElementName tag.toList) (hkeys : PlainKeys attributes)
    (hbody : Prints (printAll body).toList ink) :
    Prints (Html.element tag attributes body).print.toList ink := by
  have h := ((Shows.openTag htag hkeys).prints.append hbody).append (Shows.closeTag htag).prints
  rw [withoutBlanks_nil, List.nil_append, List.append_nil] at h
  rwa [print, String.toList_append, String.toList_append]

/-- White space around an element prints nothing. -/
theorem Prints.block {tag : String} {attributes : Attributes} {body : List Html}
    {ink : List Char} (htag : IsElementName tag.toList) (hkeys : PlainKeys attributes)
    (hbody : Prints (printAll body).toList ink) (indent : Nat) :
    Prints (printAll (Html.block tag attributes body indent)).toList ink := by
  have hpad : Prints (Html.pad indent).print.toList [] := by
    have h := (Shows.escapeText (List.replicate indent ' ')).prints
    rw [withoutBlanks_eq_nil (all_isBlank_replicate indent)] at h
    rwa [Html.pad, print, String.toList_ofList, String.toList_ofList]
  have hnewline : Prints newline.print.toList [] := by
    have h := (Shows.escapeText ['\n']).prints
    rwa [withoutBlanks_eq_nil (by decide)] at h
  have h := hpad.append ((Prints.element htag hkeys hbody).append hnewline)
  rw [List.nil_append, List.append_nil] at h
  rwa [Html.block, printAll, printAll, printAll, printAll, String.append_empty,
    String.toList_append, String.toList_append]

end DocSite.Markup
