/-
  DocSite.Proofs.Markdown.HeadingMarker

  Explicit identifiers of headings. A marker is told by the text that it ends: what stands
  before it, the identifier, and white space on both sides. Read from its end a text has at
  most one such marker, so that what is taken off a heading is what was written there.
-/
import DocSite.Markdown.Lower
import DocSite.Proofs.Text.Blank
import Mathlib.Data.List.Basic

namespace DocSite.Markdown

open DocSite.Text

/-! ## Markers -/

/-- A name that a marker can give: an ASCII letter, and then word characters, dots and
    dashes. -/
structure IsExplicitId (name : List Char) : Prop where
  head : ∃ c ∈ name.head?, c.isAlpha = true
  chars : ∀ c ∈ name, isIdChar c = true

/-- `s` is `text` with a marker for `name` behind it, and white space around the marker. -/
def EndsWithMarker (s text name : List Char) : Prop :=
  IsExplicitId name ∧ ∃ before after, (∀ c ∈ before, isBlank c = true) ∧
    (∀ c ∈ after, isBlank c = true) ∧
    s = text ++ before ++ ['\x7b', '#'] ++ name ++ ['\x7d'] ++ after

/-- A marker from its end: the identifier stands between the brace and the number sign. -/
theorem idMarker?_eq_some_iff_reverse {s kept name : List Char} :
    idMarker? s = some (kept, name) ↔
      IsExplicitId name ∧ ∃ before, (trimEnd s).reverse =
          '\x7d' :: (name.reverse ++ '#' :: '\x7b' :: before) ∧ kept = trimEnd before.reverse := by
  constructor
  · intro h
    unfold idMarker? at h
    split at h
    · next rest hrest =>
      dsimp only at h
      split at h
      · next before hbefore =>
        split at h
        · next halpha =>
          obtain ⟨rfl, rfl⟩ := Prod.mk.inj (Option.some.inj h)
          have hid : ∀ c ∈ (rest.takeWhile isIdChar).reverse, isIdChar c = true := fun c hc =>
            List.mem_takeWhile_imp (List.mem_reverse.mp hc)
          refine ⟨⟨by simpa [Option.any_eq_true] using halpha, hid⟩, before, ?_, rfl⟩
          rw [List.reverse_reverse, ← hbefore, List.takeWhile_append_dropWhile, hrest]
        · cases h
      · cases h
    · cases h
  · rintro ⟨⟨hhead, hchars⟩, before, hs, rfl⟩
    -- The number sign is no character of a name, so that the run of such characters stops there.
    have hid : ∀ c ∈ name.reverse, isIdChar c = true := fun c hc =>
      hchars c (List.mem_reverse.mp hc)
    have hmark : isIdChar '#' = false := by decide
    have htake : (name.reverse ++ '#' :: '\x7b' :: before).takeWhile isIdChar = name.reverse := by
      rw [List.takeWhile_append_of_pos hid, List.takeWhile_cons_of_neg (by rw [hmark]; decide),
        List.append_nil]
    have hdrop : (name.reverse ++ '#' :: '\x7b' :: before).dropWhile isIdChar =
        '#' :: '\x7b' :: before := by
      rw [List.dropWhile_append_of_pos hid, List.dropWhile_cons_of_neg (by rw [hmark]; decide)]
    have halpha : name.head?.any Char.isAlpha = true := by
      simpa [Option.any_eq_true] using hhead
    rw [idMarker?, hs]
    simp only [htake, hdrop, List.reverse_reverse]
    exact if_pos halpha

/-- The marker of a text is the one that it ends with. -/
theorem idMarker?_eq_some_iff {s kept name : List Char} :
    idMarker? s = some (kept, name) ↔
      ∃ text, EndsWithMarker s text name ∧ kept = trimEnd text := by
  rw [idMarker?_eq_some_iff_reverse]
  constructor
  · rintro ⟨hname, before, hs, rfl⟩
    obtain ⟨after, hafter, hblank⟩ := exists_trimEnd_append s
    refine ⟨before.reverse, ⟨hname, [], after, by nofun, hblank, ?_⟩, rfl⟩
    rw [hafter, List.reverse_eq_iff.mp hs]
    simp
  · rintro ⟨text, ⟨hname, before, after, hbefore, hafter, rfl⟩, rfl⟩
    refine ⟨hname, (text ++ before).reverse, ?_, ?_⟩
    · -- The text ends in a brace, at which trimming stops.
      have hstop : trimEnd (text ++ before ++ ['\x7b', '#'] ++ name ++ ['\x7d']) =
          text ++ before ++ ['\x7b', '#'] ++ name ++ ['\x7d'] := by
        rw [trimEnd, dropWhile_isBlank_eq_self ?_, List.reverse_reverse]
        rw [List.head?_reverse, List.getLast?_concat]
        rintro c ⟨⟩
        decide
      rw [trimEnd_append_blanks _ hafter, hstop]
      simp
    · rw [List.reverse_reverse, trimEnd_append_blanks text hbefore]

/-! ## Headings -/

/-- The last child of a heading is a text that ends with a marker. -/
structure HasMarker (children front : List Node) (last : Node) (text name : List Char) : Prop where
  children_eq : children = front ++ [last]
  value : ∃ value, last.kind = .text value ∧ EndsWithMarker value.toList text name

theorem takeIdMarker_of_hasMarker {children front : List Node} {last : Node}
    {text name : List Char} (h : HasMarker children front last text name) :
    takeIdMarker children =
      (front ++ [{ last with kind := .text (String.ofList (trimEnd text)) }],
        some (String.ofList name)) := by
  obtain ⟨rfl, value, hkind, hends⟩ := h
  have hmarker := idMarker?_eq_some_iff.mpr ⟨text, hends, rfl⟩
  rw [takeIdMarker, List.getLast?_concat]
  simp only [hkind, hmarker, List.dropLast_concat]

/-- What a heading keeps when its last child ends with no marker. -/
theorem takeIdMarker_of_not_hasMarker {children : List Node}
    (h : ∀ front last text name, ¬ HasMarker children front last text name) :
    takeIdMarker children = (children, none) := by
  unfold takeIdMarker
  split
  · next last hlast =>
    split
    · next value hkind =>
      split
      · next kept name hmarker =>
        obtain ⟨text, hends, -⟩ := idMarker?_eq_some_iff.mp hmarker
        obtain ⟨front, rfl⟩ := List.getLast?_eq_some_iff.mp hlast
        exact absurd ⟨rfl, value, hkind, hends⟩ (h front last text name)
      · rfl
    · rfl
  · rfl

/-- A text without characters at the end is dropped, and nothing else. -/
theorem dropEmptyText_eq (children : List Node) :
    dropEmptyText children =
      if children.getLast?.map Node.kind = some (.text "") then children.dropLast
      else children := by
  unfold dropEmptyText
  split
  · next last hlast => simp only [hlast, Option.map_some, Option.some.injEq]
  · next hnone => simp only [hnone, Option.map_none, reduceCtorEq, if_false]

theorem lowerHeading_of_hasMarker (level : Nat) {children front : List Node} {last : Node}
    {text name : List Char} (h : HasMarker children front last text name) :
    (lowerHeading level children).attributes = .ofList [("id", String.ofList name)] ∧
      (lowerHeading level children).children =
        if trimEnd text = [] then front
        else front ++ [{ last with kind := .text (String.ofList (trimEnd text)) }] := by
  have hempty : String.ofList (trimEnd text) = "" ↔ trimEnd text = [] := by
    rw [← String.toList_inj, String.toList_ofList]
    rfl
  rw [lowerHeading, takeIdMarker_of_hasMarker h]
  refine ⟨rfl, ?_⟩
  simp [Node.heading, Node.ofKind, dropEmptyText_eq, hempty]

theorem lowerHeading_of_not_hasMarker (level : Nat) {children : List Node}
    (h : ∀ front last text name, ¬ HasMarker children front last text name) :
    (lowerHeading level children).attributes = .empty ∧
      (lowerHeading level children).children =
        if children.getLast?.map Node.kind = some (.text "") then children.dropLast
        else children := by
  rw [lowerHeading, takeIdMarker_of_not_hasMarker h]
  exact ⟨rfl, dropEmptyText_eq children⟩

/-- A heading gets an identifier exactly when its last child is a text that ends with a marker:
    the name in the marker. The marker and the white space before it are taken off that text,
    the text is dropped if nothing is left of it, and all other children stay. Without a marker
    only a last text without characters is dropped. The text of the heading is that of the
    children that it keeps. -/
theorem lowerHeading_marker_iff (level : Nat) (children : List Node) :
    (∀ name, (lowerHeading level children).attribute? "id" = some name ↔
      ∃ front last text, HasMarker children front last text name.toList) ∧
    (∀ front last text name, HasMarker children front last text name →
      (lowerHeading level children).attributes = .ofList [("id", String.ofList name)] ∧
      (lowerHeading level children).children =
        if trimEnd text = [] then front
        else front ++ [{ last with kind := .text (String.ofList (trimEnd text)) }]) ∧
    ((∀ front last text name, ¬ HasMarker children front last text name) →
      (lowerHeading level children).attributes = .empty ∧
      (lowerHeading level children).children =
        if children.getLast?.map Node.kind = some (.text "") then children.dropLast
        else children) ∧
    (lowerHeading level children).kind =
      .header level (Node.innerTextAll (lowerHeading level children).children) := by
  have hget : ∀ {front last text name}, HasMarker children front last text name →
      (lowerHeading level children).attribute? "id" = some (String.ofList name) := by
    intro front last text name h
    rw [Node.attribute?, (lowerHeading_of_hasMarker level h).1]
    rfl
  refine ⟨fun name => ⟨fun hid => ?_, ?_⟩, fun _ _ _ _ => lowerHeading_of_hasMarker level,
    lowerHeading_of_not_hasMarker level, rfl⟩
  · -- Without a marker there are no attributes, and so there is one.
    by_cases hmarker : ∃ front last text name, HasMarker children front last text name
    · obtain ⟨front, last, text, marked, h⟩ := hmarker
      rw [hget h, Option.some.injEq] at hid
      rw [← hid, String.toList_ofList]
      exact ⟨front, last, text, h⟩
    · have hnone : ∀ front last text name, ¬ HasMarker children front last text name :=
        fun front last text name h => hmarker ⟨front, last, text, name, h⟩
      rw [Node.attribute?, (lowerHeading_of_not_hasMarker level hnone).1] at hid
      cases hid
  · rintro ⟨front, last, text, h⟩
    rw [hget h, String.ofList_toList]

/-- Of two markers only the last one is read, and of the text before it only the white space at
    its end is lost. -/
theorem lowerHeading_marker_iff_two :
    let strong := Node.ofKind .strong [.ofText "Set"]
    let children := [strong, .ofText "up \x7b#a\x7d  \x7b#b-1.x\x7d "]
    HasMarker children [strong] (.ofText "up \x7b#a\x7d  \x7b#b-1.x\x7d ")
        "up \x7b#a\x7d".toList "b-1.x".toList ∧
      (lowerHeading 2 children).attributes = .ofList [("id", "b-1.x")] ∧
      (lowerHeading 2 children).children = [strong, .ofText "up \x7b#a\x7d"] ∧
      (lowerHeading 2 children).kind = .header 2 "Setup \x7b#a\x7d" := by
  intro strong children
  obtain ⟨-, hmarked, -, hkind⟩ := lowerHeading_marker_iff 2 children
  have h : HasMarker children [strong] (.ofText "up \x7b#a\x7d  \x7b#b-1.x\x7d ")
      "up \x7b#a\x7d".toList "b-1.x".toList :=
    ⟨rfl, _, rfl, ⟨⟨'b', rfl, by decide⟩, List.forall_iff_forall_mem.mp (by decide)⟩,
      "  ".toList, " ".toList, List.forall_iff_forall_mem.mp (by decide),
      List.forall_iff_forall_mem.mp (by decide), by decide⟩
  obtain ⟨hattributes, hchildren⟩ := hmarked _ _ _ _ h
  have htrim : trimEnd "up \x7b#a\x7d".toList = "up \x7b#a\x7d".toList := by decide
  rw [htrim, if_neg (by decide), String.ofList_toList] at hchildren
  refine ⟨h, hattributes, hchildren, ?_⟩
  rw [hkind, hchildren]
  rfl

end DocSite.Markdown
