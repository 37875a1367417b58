/-
  DocSite.Proofs.Page.Admonition

  Quotes on the page. A quote that begins with a bold label is told by its parts: the first
  paragraph, the label in it, the gaps behind the label, what is left of the paragraph, and the
  other children. It is printed as what is left and the other children, and only its class
  depends on the label.
-/
import DocSite.Markdown.Lower
import DocSite.Page.Settle
import DocSite.Proofs.Document.Attributes
import DocSite.Proofs.Html.Reading
import DocSite.Proofs.Page.Layout

namespace DocSite

open DocSite.Layout DocSite.Text
open DocSite.Markdown (trimFirstText)

/-! ## Gaps -/

/-- A break, or a text of white space alone. -/
def IsGap (kind : NodeKind) : Prop :=
  kind = .softBreak ∨ kind = .lineBreak ∨
    ∃ value, kind = .text value ∧ ∀ c ∈ value.toList, isBlank c = true

theorem isGap_iff (kind : NodeKind) : isGap kind = true ↔ IsGap kind := by
  cases kind with
  | softBreak => exact ⟨fun _ => .inl rfl, fun _ => rfl⟩
  | lineBreak => exact ⟨fun _ => .inr (.inl rfl), fun _ => rfl⟩
  | text value => simp [isGap, IsGap, trimStart, List.dropWhile_eq_nil_iff]
  | _ => simp [isGap, IsGap]

/-- The gaps at the start are left out, and the white space before a text behind them. -/
theorem trimLead_gaps {gaps left : List Node} (hgaps : ∀ n ∈ gaps, IsGap n.kind)
    (hleft : ∀ n ∈ left.head?, ¬ IsGap n.kind) :
    Node.trimLead (gaps ++ left) = trimFirstText left := by
  induction gaps with
  | nil =>
    cases left with
    | nil => rfl
    | cons first rest =>
      have hfirst : ¬ isGap first.kind = true := fun h => hleft first rfl ((isGap_iff _).mp h)
      rw [List.nil_append, Node.trimLead, if_neg hfirst]
      rfl
  | cons gap gaps ih =>
    obtain ⟨hgap, hgaps⟩ := List.forall_mem_cons.mp hgaps
    rw [List.cons_append, Node.trimLead, if_pos ((isGap_iff _).mpr hgap), ih hgaps]

/-! ## Parts of a quote -/

/-- The children of a quote that begins with a bold label: a paragraph with the label, the gaps
    behind it and what is left of the paragraph, and then the rest of the quote. -/
structure IsLabelled (children : List Node) (paragraph : Attributes) (label : Node)
    (gaps left rest : List Node) : Prop where
  children_eq : children = ⟨.paragraph, paragraph, label :: (gaps ++ left)⟩ :: rest
  strong : label.kind = .strong
  gaps : ∀ n ∈ gaps, IsGap n.kind
  left : ∀ n ∈ left.head?, ¬ IsGap n.kind

section Parts

variable {children gaps left rest : List Node} {paragraph : Attributes} {label : Node}

theorem IsLabelled.label?_eq (h : IsLabelled children paragraph label gaps left rest) :
    admonitionLabel? children = some label := by
  rw [h.children_eq, admonitionLabel?, if_pos h.strong]

/-- A paragraph of which nothing is left is not shown. -/
theorem IsLabelled.unlabelled_eq (h : IsLabelled children paragraph label gaps left rest) :
    Node.unlabelled children =
      (if left.isEmpty then [] else [⟨.paragraph, paragraph, trimFirstText left⟩]) ++ rest := by
  rw [h.children_eq, Node.unlabelled, if_pos h.strong, trimLead_gaps h.gaps h.left]
  cases left with
  | nil => rfl
  | cons first left =>
    have htrim : ∃ kept, trimFirstText (first :: left) = kept :: left := by
      rw [trimFirstText]
      split <;> exact ⟨_, rfl⟩
    obtain ⟨kept, hkept⟩ := htrim
    rw [hkept]
    rfl

/-- Every quote that begins with a bold label has its parts. -/
theorem exists_isLabelled (hstrong : label.kind = .strong) (paragraph : Attributes)
    (content rest : List Node) :
    ∃ gaps left, IsLabelled (⟨.paragraph, paragraph, label :: content⟩ :: rest) paragraph label
      gaps left rest := by
  refine ⟨content.takeWhile (isGap ·.kind), content.dropWhile (isGap ·.kind), ?_, hstrong, ?_, ?_⟩
  · rw [List.takeWhile_append_dropWhile]
  · exact fun n hn => (isGap_iff _).mp (List.all_eq_true.mp List.all_takeWhile n hn)
  · intro n hn hgap
    have hstop := List.head?_dropWhile_not (fun n : Node => isGap n.kind) content
    rw [Option.mem_def.mp hn] at hstop
    exact absurd ((isGap_iff _).mpr hgap) (by simp [hstop])

theorem admonitionLabel?_eq_none (h : ∀ paragraph label content rest,
    children = ⟨.paragraph, paragraph, label :: content⟩ :: rest → label.kind ≠ .strong) :
    admonitionLabel? children = none := by
  unfold admonitionLabel?
  split
  · next paragraph label content rest =>
    exact if_neg (h paragraph label content rest rfl)
  · rfl

end Parts

/-! ## Classes -/

/-- The kind that a label names: the label in lower case without the white space around it and
    without the colon at its end. -/
def IsKind (label kind : List Char) : Prop :=
  (∃ name, lowercase (trim label) = name ++ [':'] ∧ kind = trimEnd name) ∨
    (lowercase (trim label)).getLast? ≠ some ':' ∧ kind = lowercase (trim label)

theorem isKind_admonitionKind (label : List Char) : IsKind label (admonitionKind label) := by
  rw [admonitionKind]
  cases hdrop : dropSuffix? [':'] (lowercase (trim label)) with
  | some name =>
    exact .inl ⟨name, (List.isSuffixOf?_eq_some_iff_append_eq.mp hdrop).symm, rfl⟩
  | none =>
    refine .inr ⟨fun hlast => ?_, rfl⟩
    obtain ⟨name, hname⟩ := List.getLast?_eq_some_iff.mp hlast
    have hsome : dropSuffix? [':'] (lowercase (trim label)) = some name :=
      List.isSuffixOf?_eq_some_iff_append_eq.mpr hname.symm
    rw [hdrop] at hsome
    cases hsome

/-- The attributes `after` are `before` with the kind in front of the classes. No kind changes
    nothing. -/
structure IsClassed (kind : String) (before after : Attributes) : Prop where
  unnamed : kind = "" → after = before
  present : kind ≠ "" → ∀ front old back, before.entries = front ++ ("class", old) :: back →
    after.entries = front ++ ("class", kind ++ " " ++ old) :: back
  absent : kind ≠ "" → before.get? "class" = none →
    after.entries = before.entries ++ [("class", kind)]

theorem isClassed_admonitionAttributes (attributes : Attributes) (label : Node) :
    IsClassed (String.ofList (admonitionKind label.innerText.toList)) attributes
      (admonitionAttributes attributes label) := by
  generalize hkind : String.ofList (admonitionKind label.innerText.toList) = kind
  have hne : kind ≠ "" → kind.isEmpty = false := fun h => by simpa using h
  refine ⟨fun hempty => ?_, fun hnamed front old back hentries => ?_, fun hnamed hnone => ?_⟩
  · rw [admonitionAttributes, hkind, hempty]
    cases hclass : attributes.get? "class" with
    | none => rfl
    | some cls =>
      have hsame := Attributes.insert_eq_self hclass
      simp [hsame]
  · have hkept : (kind ++ " " ++ old).isEmpty = false := by simp [hnamed]
    rw [admonitionAttributes, hkind, Attributes.get?_of_entries hentries]
    simp only [hne hnamed, hkept, Bool.false_eq_true, if_false]
    exact Attributes.entries_insert_of_entries hentries _
  · rw [admonitionAttributes, hkind, hnone]
    simp only [hne hnamed, Bool.false_eq_true, if_false]
    exact Attributes.entries_insert_of_none hnone _

/-! ## Settling by parts -/

section Settling

variable (settings : RenderSettings) (highlighter : Highlighter)

theorem settleAll_append (a b : List Draft) :
    settleAll settings highlighter (a ++ b) =
      (do let here ← settleAll settings highlighter a
          let later ← settleAll settings highlighter b
          pure (here ++ later)) := by
  induction a with
  | nil => simp [settleAll]
  | cons piece rest ih => simp [settleAll, ih, ← List.append_assoc]

/-- An element settles with what is in it. -/
theorem settleAll_indentedBlock (tag : String) (attributes : Attributes) (body : List Draft)
    (indent : Nat) :
    settleAll settings highlighter (Draft.indentedBlock tag attributes body indent) =
      (fun inner => Html.block tag attributes (.newline :: (inner ++ [.pad indent])) indent) <$>
        settleAll settings highlighter body := by
  simp [settleAll, Draft.settle, Draft.indentedBlock, Draft.block, Draft.pad, Draft.newline,
    settleAll_append, Html.block]

/-- What nodes are printed as, one after the other, at an indentation. -/
def printed (indent : Nat) (children : List Node) : Settle String :=
  Html.printAll <$> settleAll settings highlighter (nodes settings.baseUrl indent children)

/-- The element of a quote around its lines, as it is printed. -/
def printedAside (attributes : Attributes) (indent : Nat) (body : String) : String :=
  (Html.pad indent).print ++ Html.openTag "aside" attributes ++ "\n" ++ body ++
    (Html.pad indent).print ++ Html.closeTag "aside" ++ "\n"

theorem printed_quote (indent : Nat) (attributes : Attributes) (children : List Node) :
    printed settings highlighter indent [⟨.blockquote, attributes, children⟩] =
      printedAside (quoteAttributes attributes children) indent <$>
        printed settings highlighter (indent + 2) (Node.unlabelled children) := by
  have hprint : ∀ (attributes : Attributes) (inner : List Html),
      Html.printAll
          (Html.block "aside" attributes (.newline :: (inner ++ [.pad indent])) indent) =
        printedAside attributes indent (Html.printAll inner) := by
    intro attributes inner
    have hnewline : Html.newline.print = "\n" := rfl
    simp [Html.block, Html.printAll, Html.print, Html.printAll_append, hnewline, printedAside,
      String.append_assoc]
  rw [printed, nodes_eq, List.flatMap_singleton, node_blockquote, settleAll_indentedBlock,
    printed, nodes_eq]
  simp [hprint]

/-- A quote is an element around what its children are printed as. If its first child is a
    paragraph that begins with a bold label, then the paragraph is printed without the label and
    the gaps behind it, or not at all if nothing is left of it, and the kind that the label
    names stands in front of the classes of the quote. -/
theorem printed_quote_eq (indent : Nat) (attributes : Attributes) (children : List Node) :
    (∀ paragraph label content rest,
      children = ⟨.paragraph, paragraph, label :: content⟩ :: rest → label.kind = .strong →
      ∃ gaps left kind after, IsLabelled children paragraph label gaps left rest ∧
        IsKind label.innerText.toList kind ∧ IsClassed (String.ofList kind) attributes after ∧
        printed settings highlighter indent [⟨.blockquote, attributes, children⟩] =
          printedAside after indent <$> printed settings highlighter (indent + 2)
            ((if left.isEmpty then [] else [⟨.paragraph, paragraph, trimFirstText left⟩]) ++
              rest)) ∧
    ((∀ paragraph label content rest,
        children = ⟨.paragraph, paragraph, label :: content⟩ :: rest → label.kind ≠ .strong) →
      printed settings highlighter indent [⟨.blockquote, attributes, children⟩] =
        printedAside attributes indent <$> printed settings highlighter (indent + 2) children) := by
  constructor
  · rintro paragraph label content rest rfl hstrong
    obtain ⟨gaps, left, h⟩ := exists_isLabelled hstrong paragraph content rest
    have hkind := isKind_admonitionKind label.innerText.toList
    have hclass := isClassed_admonitionAttributes attributes label
    refine ⟨gaps, left, _, _, h, hkind, hclass, ?_⟩
    rw [printed_quote, quoteAttributes, h.label?_eq, h.unlabelled_eq]
  · intro h
    have hnone := admonitionLabel?_eq_none h
    rw [printed_quote, quoteAttributes, hnone, unlabelled_eq_self hnone]

end Settling

/-- The bold text behind the label is content, and so is bold text that stands in no
    paragraph. -/
theorem printed_quote_eq_note :
    let label := Node.ofKind .strong [.ofText "Note :"]
    let bold := Node.ofKind .strong [.ofText "Now"]
    let lead := Attributes.ofList [("class", "lead")]
    let attributes := Attributes.ofList [("id", "q"), ("class", "wide"), ("title", "t")]
    let children := [⟨.paragraph, lead, [label, .leaf .softBreak, .ofText " ", bold]⟩, bold]
    label.kind = .strong ∧
      (∃ after, after.entries = [("id", "q"), ("class", "note wide"), ("title", "t")] ∧
        printed {} .plain 0 [⟨.blockquote, attributes, children⟩] =
          printedAside after 0 <$> printed {} .plain 2 [⟨.paragraph, lead, [bold]⟩, bold]) ∧
      printed {} .plain 0 [⟨.blockquote, attributes, [bold]⟩] =
        printedAside attributes 0 <$> printed {} .plain 2 [bold] := by
  intro label bold lead attributes children
  obtain ⟨hlabelled, -⟩ := printed_quote_eq {} .plain 0 attributes children
  obtain ⟨-, hunlabelled⟩ := printed_quote_eq {} .plain 0 attributes [bold]
  rw [Nat.zero_add] at hlabelled hunlabelled
  refine ⟨rfl, ?_, hunlabelled fun paragraph label content rest h => ?_⟩
  · obtain ⟨gaps, left, kind, after, hparts, hkind, hafter, hprinted⟩ :=
      hlabelled _ _ _ _ rfl rfl
    refine ⟨after, ?_, ?_⟩
    · have hlabel : lowercase (trim label.innerText.toList) = "note ".toList ++ [':'] := by
        decide +kernel
      -- The label ends in a colon, so that the kind is read from what stands before it.
      have hnote : kind = "note".toList := by
        obtain ⟨name, hname, rfl⟩ | ⟨hlast, -⟩ := hkind
        · rw [← List.append_cancel_right (hlabel.symm.trans hname)]
          decide
        · rw [hlabel] at hlast
          exact absurd List.getLast?_concat hlast
      have hne : String.ofList kind ≠ "" := by
        rw [hnote]
        decide
      rw [hafter.present hne [("id", "q")] "wide" [("title", "t")] rfl, hnote]
      rfl
    · have hshown : Node.unlabelled children = [⟨.paragraph, lead, [bold]⟩, bold] := rfl
      rw [hprinted, ← hparts.unlabelled_eq, hshown]
  · have hkind : NodeKind.strong = .paragraph := congrArg Node.kind (List.cons.inj h).1
    cases hkind

end DocSite
