/-
  DocSite.Proofs.Html.LinkTags

  The links of a page as they are found in its text: the tags that open an element `a`
  directly before one that opens an element `span` without attributes. No other element
  of a page begins so. As markup may end anywhere, which links it holds is a statement
  about all continuations.
-/
import DocSite.Proofs.Html.VisibleText
import DocSite.Proofs.Text.Split
import Mathlib.Data.List.Basic

namespace DocSite.Markup

open DocSite.Html DocSite.Text

/-! ## Finding links -/

/-- What is in the tag that a text begins with, behind the name, if that is the tag of a
    link. -/
def linkHere? (s : List Char) : Option (List Char) :=
  (dropPrefix? "<a".toList s).bind fun rest =>
    (splitOnce '>' rest).bind fun (attributes, after) =>
      if (attributes = [] ∨ attributes.head? = some ' ') ∧ "<span>".toList <+: after then
        some attributes
      else none

/-- The tags of links in a text, in order. -/
def linkTags : List Char → List (List Char)
  | [] => []
  | c :: rest => (linkHere? (c :: rest)).toList ++ linkTags rest

/-- Markup holds the tags of links if these are what it adds to any text. -/
def HoldsLinks (markup : List Char) (tags : List (List Char)) : Prop :=
  ∀ rest, linkTags (markup ++ rest) = tags ++ linkTags rest

theorem linkHere?_cons_of_ne {c : Char} (h : c ≠ '<') (rest : List Char) :
    linkHere? (c :: rest) = none := by
  have hprefix : dropPrefix? "<a".toList (c :: rest) = none := by
    cases hdrop : dropPrefix? "<a".toList (c :: rest) with
    | none => rfl
    | some after =>
      have heq := List.isPrefixOf?_eq_some_iff_append_eq.mp hdrop
      exact absurd (List.cons.inj heq).1.symm h
  rw [linkHere?, hprefix, Option.bind_none]

/-- A tag that opens an element `a`, up to the text behind it. -/
theorem linkHere?_anchor {attributes : List Char} (hplain : '>' ∉ attributes)
    (after : List Char) :
    linkHere? ('<' :: 'a' :: (attributes ++ '>' :: after))
      = if (attributes = [] ∨ attributes.head? = some ' ') ∧ "<span>".toList <+: after then
          some attributes
        else none := by
  have hprefix : dropPrefix? "<a".toList ('<' :: 'a' :: (attributes ++ '>' :: after))
      = some (attributes ++ '>' :: after) := List.isPrefixOf?_eq_some_iff_append_eq.mpr rfl
  rw [linkHere?, hprefix, Option.bind_some, splitOnce_append hplain, Option.bind_some]

/-- A tag with another name is no tag of a link. -/
theorem linkHere?_tag {inside : List Char} (hplain : '>' ∉ inside)
    (hname : ∀ attributes, inside = 'a' :: attributes →
      attributes ≠ [] ∧ attributes.head? ≠ some ' ') (rest : List Char) :
    linkHere? ('<' :: (inside ++ '>' :: rest)) = none := by
  -- Either the name only begins like that of an anchor, or it does not even do that.
  by_cases hanchor : ∃ attributes, inside = 'a' :: attributes
  · obtain ⟨attributes, rfl⟩ := hanchor
    obtain ⟨hne, hhead⟩ := hname attributes rfl
    have hplain' : '>' ∉ attributes := fun hmem => hplain (List.mem_cons_of_mem _ hmem)
    rw [List.cons_append, linkHere?_anchor hplain', if_neg]
    rintro ⟨hnil | hblank, -⟩
    · exact hne hnil
    · exact hhead hblank
  · have hprefix : dropPrefix? "<a".toList ('<' :: (inside ++ '>' :: rest)) = none := by
      cases hdrop : dropPrefix? "<a".toList ('<' :: (inside ++ '>' :: rest)) with
      | none => rfl
      | some after =>
        have heq := (List.cons.inj (List.isPrefixOf?_eq_some_iff_append_eq.mp hdrop)).2
        cases inside with
        | nil => exact absurd (List.cons.inj heq).1 (by decide)
        | cons c attributes =>
          obtain ⟨rfl, -⟩ := List.cons.inj heq
          exact absurd ⟨attributes, rfl⟩ hanchor
    rw [linkHere?, hprefix, Option.bind_none]

namespace HoldsLinks

variable {a b s : List Char} {t u : List (List Char)}

theorem nil : HoldsLinks [] [] := fun _ => rfl

theorem append (ha : HoldsLinks a t) (hb : HoldsLinks b u) : HoldsLinks (a ++ b) (t ++ u) := by
  intro rest
  rw [List.append_assoc, ha, hb, List.append_assoc]

/-- The links of whole markup. -/
theorem linkTags_eq (h : HoldsLinks s t) : linkTags s = t := by
  have hwhole := h []
  rwa [List.append_nil, linkTags, List.append_nil] at hwhole

/-- Markup holds the links that it holds. -/
theorem eq (ht : HoldsLinks s t) (hu : HoldsLinks s u) : t = u := by
  rw [← ht.linkTags_eq, hu.linkTags_eq]

theorem of_not_mem (h : '<' ∉ s) : HoldsLinks s [] := by
  intro rest
  induction s with
  | nil => rfl
  | cons c s ih =>
    rw [List.mem_cons, not_or] at h
    rw [List.cons_append, linkTags, linkHere?_cons_of_ne (Ne.symm h.1)]
    exact ih h.2

/-- A text begins with a tag, and goes on without one. -/
theorem linkTags_cons (h : '<' ∉ s) (rest : List Char) :
    linkTags ('<' :: (s ++ rest)) = (linkHere? ('<' :: (s ++ rest))).toList ++ linkTags rest := by
  rw [linkTags, of_not_mem h]
  rfl

/-- A tag with another name. -/
theorem tag {inside : List Char} (hlt : '<' ∉ inside) (hgt : '>' ∉ inside)
    (hname : ∀ attributes, inside = 'a' :: attributes →
      attributes ≠ [] ∧ attributes.head? ≠ some ' ') :
    HoldsLinks ('<' :: (inside ++ ['>'])) [] := by
  intro rest
  have hlt' : '<' ∉ inside ++ ['>'] := by
    rw [List.mem_append, List.mem_singleton]
    rintro (hmem | heq)
    · exact hlt hmem
    · exact absurd heq (by decide)
  rw [List.cons_append, linkTags_cons hlt', List.append_assoc, List.singleton_append,
    linkHere?_tag hgt hname]
  rfl

/-! ## Elements -/

section Elements

variable {tag : String} {attributes : Attributes}

theorem openTag (htag : IsElementName tag.toList) (hkeys : PlainKeys attributes)
    (hne : tag ≠ "a") : HoldsLinks (openTag tag attributes).toList [] := by
  have hprint : (Html.openTag tag attributes).toList
      = '<' :: (tag.toList ++ (printEntries attributes.entries).toList ++ ['>']) := by
    simp [Html.openTag]
  rw [hprint]
  refine .tag (not_mem_tag (.inl rfl) htag hkeys) (not_mem_tag (.inr rfl) htag hkeys) ?_
  intro inside hinside
  -- The name goes on behind the letter, with a character of a name.
  cases hchars : tag.toList with
  | nil =>
    have halpha := htag.1
    rw [hchars] at halpha
    cases halpha
  | cons c more =>
    rw [hchars, List.cons_append] at hinside
    obtain ⟨rfl, rfl⟩ := List.cons.inj hinside
    cases more with
    | nil =>
      have heq : tag = "a" := by
        apply String.toList_inj.mp
        rw [hchars]
        rfl
      exact absurd heq hne
    | cons d more =>
      refine ⟨List.cons_ne_nil _ _, fun hhead => ?_⟩
      obtain rfl := Option.some.inj hhead
      have hchar := htag.2 ' ' (by rw [hchars]; simp)
      exact absurd hchar (by decide)

theorem closeTag (htag : IsElementName tag.toList) : HoldsLinks (closeTag tag).toList [] := by
  have hprint : (Html.closeTag tag).toList = '<' :: ('/' :: tag.toList ++ ['>']) := by
    simp [Html.closeTag]
  have hnot : ∀ mark, isTagChar mark = false → mark ≠ '/' → mark ∉ '/' :: tag.toList := by
    intro mark hmark hslash hmem
    rcases List.mem_cons.mp hmem with heq | hmem
    · exact hslash heq
    · rw [htag.2 mark hmem] at hmark
      cases hmark
  rw [hprint]
  refine .tag (hnot '<' (by decide) (by decide)) (hnot '>' (by decide) (by decide)) ?_
  intro inside hinside
  exact absurd (List.cons.inj hinside).1 (by decide)

/-- An element that is no link holds the links in it. -/
theorem element {body : String} (htag : IsElementName tag.toList) (hkeys : PlainKeys attributes)
    (hne : tag ≠ "a") (hbody : HoldsLinks body.toList t) :
    HoldsLinks (Html.openTag tag attributes ++ body ++ Html.closeTag tag).toList t := by
  have h := ((openTag htag hkeys hne).append hbody).append (closeTag htag)
  rw [List.nil_append, List.append_nil] at h
  rwa [String.toList_append, String.toList_append]

/-- An element without content holds no links. -/
theorem void (htag : IsElementName tag.toList) (hkeys : PlainKeys attributes)
    (hne : ∀ inside, tag.toList ≠ 'a' :: inside) :
    HoldsLinks ("<" ++ tag ++ printEntries attributes.entries ++ " />").toList [] := by
  have hprint : ("<" ++ tag ++ printEntries attributes.entries ++ " />").toList
      = '<' :: (tag.toList ++ (printEntries attributes.entries).toList ++ [' ', '/'] ++ ['>']) := by
    simp
  have hnot : ∀ mark, mark = '<' ∨ mark = '>' →
      mark ∉ tag.toList ++ (printEntries attributes.entries).toList ++ [' ', '/'] := by
    intro mark hmark hmem
    rcases List.mem_append.mp hmem with hmem | hmem
    · exact not_mem_tag hmark htag hkeys hmem
    · rcases hmark with rfl | rfl <;> exact absurd hmem (by decide)
  rw [hprint]
  refine .tag (hnot '<' (.inl rfl)) (hnot '>' (.inr rfl)) ?_
  -- The character behind `<` is the first one of the name, which is not that of an anchor.
  intro inside hinside
  cases hchars : tag.toList with
  | nil =>
    have halpha := htag.1
    rw [hchars] at halpha
    cases halpha
  | cons c more =>
    rw [hchars, List.cons_append, List.cons_append] at hinside
    obtain ⟨rfl, -⟩ := List.cons.inj hinside
    exact absurd hchars (hne more)

/-! ## Anchors and links -/

/-- What is printed of attributes is set off from the name before it. -/
theorem head?_printEntries (entries : List (String × String)) :
    (printEntries entries).toList = [] ∨ (printEntries entries).toList.head? = some ' ' := by
  cases entries with
  | nil => exact .inl rfl
  | cons entry rest =>
    obtain ⟨key, value⟩ := entry
    right
    simp [printEntries, printAttribute]

/-- What a tag that opens an element `a` adds to the text behind it. -/
theorem linkTags_anchor (hkeys : PlainKeys attributes) (after : List Char) :
    linkTags ((Html.openTag "a" attributes).toList ++ after)
      = (if "<span>".toList <+: after then [(printEntries attributes.entries).toList] else [])
        ++ linkTags after := by
  have hprint : (Html.openTag "a" attributes).toList ++ after
      = '<' :: ('a' :: ((printEntries attributes.entries).toList ++ ['>']) ++ after) := by
    simp [Html.openTag]
  have hplain : ∀ mark, mark = '<' ∨ mark = '>' →
      mark ∉ (printEntries attributes.entries).toList := fun mark hmark =>
    not_mem_printEntries hmark hkeys
  have hlt : '<' ∉ 'a' :: ((printEntries attributes.entries).toList ++ ['>']) := by
    rw [List.mem_cons, List.mem_append, List.mem_singleton]
    rintro (heq | hmem | heq)
    · exact absurd heq (by decide)
    · exact hplain '<' (.inl rfl) hmem
    · exact absurd heq (by decide)
  rw [hprint, linkTags_cons hlt, List.cons_append, List.append_assoc, List.singleton_append,
    linkHere?_anchor (hplain '>' (.inr rfl))]
  simp only [head?_printEntries, true_and]
  split <;> rfl

/-- An element `a` around text is no link. -/
theorem anchor {body : String} (hkeys : PlainKeys attributes) (hbody : '<' ∉ body.toList) :
    HoldsLinks (Html.openTag "a" attributes ++ body ++ Html.closeTag "a").toList [] := by
  intro rest
  -- Behind the tag stands text, or at once the closing tag.
  have hspan : ¬"<span>".toList <+: body.toList ++ (Html.closeTag "a").toList ++ rest := by
    intro hprefix
    cases hchars : body.toList with
    | nil =>
      rw [hchars] at hprefix
      obtain ⟨after, hafter⟩ := hprefix
      exact absurd (List.cons.inj (List.cons.inj hafter).2).1 (by decide)
    | cons c more =>
      rw [hchars] at hprefix hbody
      obtain ⟨after, hafter⟩ := hprefix
      exact hbody (List.mem_cons.mpr (.inl (List.cons.inj hafter).1))
  have hclose : HoldsLinks (Html.closeTag "a").toList [] := closeTag (by decide)
  have hinner := (of_not_mem hbody).append hclose rest
  rw [String.toList_append, String.toList_append, List.append_assoc, List.append_assoc,
    linkTags_anchor hkeys, ← List.append_assoc, if_neg hspan, hinner]
  rfl

/-- A link stands before the links in its label. -/
theorem link {body : String} (hkeys : PlainKeys attributes) (hbody : HoldsLinks body.toList t) :
    HoldsLinks (Html.openTag "a" attributes
        ++ (Html.openTag "span" .empty ++ body ++ Html.closeTag "span")
        ++ Html.closeTag "a").toList
      ((printEntries attributes.entries).toList :: t) := by
  intro rest
  have hclose : HoldsLinks (Html.closeTag "a").toList [] := closeTag (by decide)
  have hlabel : HoldsLinks
      (Html.openTag "span" .empty ++ body ++ Html.closeTag "span").toList t :=
    element (by decide) (by decide) (by decide) hbody
  -- A label stands in a `span` right behind the tag, which is what tells a link.
  have hspan : "<span>".toList <+:
      (Html.openTag "span" .empty ++ body ++ Html.closeTag "span").toList
        ++ (Html.closeTag "a").toList ++ rest := by
    refine ⟨body.toList ++ (Html.closeTag "span").toList ++ (Html.closeTag "a").toList ++ rest, ?_⟩
    simp [Html.openTag, printEntries, Attributes.empty]
  have hinner := hlabel.append hclose rest
  rw [List.append_nil] at hinner
  rw [String.toList_append, String.toList_append, List.append_assoc, List.append_assoc,
    linkTags_anchor hkeys, ← List.append_assoc, if_pos hspan, hinner]
  rfl

end Elements

end HoldsLinks

end DocSite.Markup
