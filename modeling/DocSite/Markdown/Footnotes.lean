/-
  DocSite.Markdown.Footnotes

  Numbering of footnotes. A footnote gets its number from the first reference to
  it, and the footnotes that are referred to stand at the end of the document in
  the order of their numbers. All others are dropped.
-/
import DocSite.Markdown.Reference
import DocSite.Markdown.Tree

namespace DocSite.Markdown

/-- A footnote definition: the label it is found under, its name and its body. -/
structure Definition where
  label : List Char
  name : String
  body : List (Block (List Inline))

mutual

/-- The footnote definitions in a block, but not those inside of one. -/
def Block.definitions : Block (List Inline) → List Definition
  | .footnote name _ body => [⟨foldLabel name.toList, name, body⟩]
  | .quote body => definitionsIn body
  | .list _ _ _ items => definitionsInItems items
  | _ => []

/-- The footnote definitions in blocks. -/
def definitionsIn : List (Block (List Inline)) → List Definition
  | [] => []
  | block :: rest => block.definitions ++ definitionsIn rest

/-- The footnote definitions in an item. -/
def Item.definitions : Item (List Inline) → List Definition
  | .mk _ body => definitionsIn body

/-- The footnote definitions in items. -/
def definitionsInItems : List (Item (List Inline)) → List Definition
  | [] => []
  | item :: rest => item.definitions ++ definitionsInItems rest

end

/-- The definition of a label. Of several the last counts. -/
def findDefinition? (definitions : List Definition) (label : List Char) : Option Definition :=
  definitions.reverse.find? (·.label == label)

/-! ## References -/

/-- The labels referred to so far, in the order of their numbers, and how often. -/
abbrev Numbering := List (List Char × Nat)

/-- Counts a reference to a label: the label's number, and which reference to it
    this is. -/
def countReference (label : List Char) : Numbering → (Nat × Nat) × Numbering
  | [] => ((1, 1), [(label, 1)])
  | (other, count) :: rest =>
    if other = label then ((1, count + 1), (other, count + 1) :: rest)
    else
      let ((number, ordinal), rest) := countReference label rest
      ((number + 1, ordinal), (other, count) :: rest)

section Number

variable (definitions : List Definition)

mutual

/-- Numbers the references in an inline. One without a definition is text. -/
def Inline.number : Inline → StateM Numbering Inline
  | .footnoteRef name _ _ =>
    match findDefinition? definitions (foldLabel name.toList) with
    | some definition => do
      let (number, ordinal) ← modifyGet (countReference definition.label)
      pure (.footnoteRef definition.name number ordinal)
    | none => pure (.text ("[^" ++ name ++ "]"))
  | .emphasis body => .emphasis <$> numberAll body
  | .strong body => .strong <$> numberAll body
  | .strikethrough body => .strikethrough <$> numberAll body
  | .link url title body => .link url title <$> numberAll body
  | .image url title body => .image url title <$> numberAll body
  | inline => pure inline

/-- Numbers the references in inlines. -/
def numberAll : List Inline → StateM Numbering (List Inline)
  | [] => pure []
  | inline :: rest => do
    let inline ← inline.number
    let rest ← numberAll rest
    pure (inline :: rest)

end

end Number

/-! ## Placing -/

mutual

/-- Drops the footnote definitions in a block that is none itself. -/
def Block.dropFootnotes : Block (List Inline) → Block (List Inline)
  | .quote body => .quote (dropFootnotesIn body)
  | .list ordered start tight items => .list ordered start tight (dropFootnotesInItems items)
  | block => block

/-- Drops the footnote definitions among and in blocks. -/
def dropFootnotesIn : List (Block (List Inline)) → List (Block (List Inline))
  | [] => []
  | .footnote .. :: rest => dropFootnotesIn rest
  | block :: rest => block.dropFootnotes :: dropFootnotesIn rest

/-- Drops the footnote definitions in an item. -/
def Item.dropFootnotes : Item (List Inline) → Item (List Inline)
  | .mk done body => .mk done (dropFootnotesIn body)

/-- Drops the footnote definitions in items. -/
def dropFootnotesInItems : List (Item (List Inline)) → List (Item (List Inline))
  | [] => []
  | item :: rest => item.dropFootnotes :: dropFootnotesInItems rest

end

/-- Numbers the footnotes of a document and places them at its end. -/
def placeFootnotes (document : Document) : Document :=
  let (numbered, numbering) :=
    (mapBlocksM (numberAll (definitionsIn document)) document).run []
  -- References inside of notes are numbered too, so the bodies come from the numbered document.
  let definitions := definitionsIn numbered
  let notes := numbering.filterMap fun (label, count) =>
    (findDefinition? definitions label).map fun d => Block.footnote d.name count d.body
  dropFootnotesIn numbered ++ notes

end DocSite.Markdown
